import ServiceContainer.Proofs.Identifiers
import ServiceContainer.Proofs.Refusals

/-!
# Names of members that read back

The identifier of a key is made of the characters of its name, lowered, and of letters of its arguments, and the names
of members are made of that. Lowering keeps the characters that stand in words among themselves, so the names read back
as they are exactly when the characters of the key could stand in them: its name is a word without the mark of raw
names, and so are the letters of its arguments.

## Main definitions

* `TypeExpr.letters` — the characters that an argument contributes to an identifier, before they are lowered
* `TypeExpr.IsNameable` — keys after which members can be named

## Main statements

* `lowerChar_keeps` — lowering and the characters of words
* `memberNames_readBack` — when the names of members read back
* `serviceIdentifier_nameable` — which keys can be named
-/

namespace ServiceContainer

open Text Syntax

/-! ### Lowering and the characters of words -/

section

variable {c d : Char} {cs before : List Char}

/-- The characters stand in words in the same places. -/
def SameClass (c d : Char) : Prop :=
  isIdentifierStart c = isIdentifierStart d ∧ isIdentifierContinue c = isIdentifierContinue d

instance : DecidableRel SameClass := fun _ _ => instDecidableAnd

/-- Every code point from `first` to `last` is that of a character that begins words beyond ASCII. -/
def begins (first last : Nat) : Bool :=
  Nat.ble 128 first && (Nat.blt last 0xD800 || Nat.blt 0xDFFF first && Nat.blt last 0x110000) &&
    Table.identifierStart.any fun r => Nat.ble last r.last && Nat.ble r.first first && Nat.beq r.step 1

/-- No code point from `first` to `last` is that of a character that stands in words. -/
def avoids (first last : Nat) : Bool :=
  Nat.ble 128 first && (Table.identifierStart ++ Table.identifierExtend).all fun r =>
    Nat.blt last r.first || Nat.blt r.last first

/-- The code point to which a run leads from another. -/
def Text.CaseRun.lower (run : CaseRun) (n : Nat) : Nat := (n + run.shift).toNat

/-- A run leads from characters that begin words to such characters. -/
def Text.CaseRun.begins (run : CaseRun) : Bool :=
  ServiceContainer.begins run.range.first run.range.last &&
    ServiceContainer.begins (run.lower run.range.first) (run.lower run.range.last)

/-- A run leads from characters that stand in no word to such characters. -/
def Text.CaseRun.avoids (run : CaseRun) : Bool :=
  ServiceContainer.avoids run.range.first run.range.last &&
    ServiceContainer.avoids (run.lower run.range.first) (run.lower run.range.last)

/-- A run leads from every character to one that stands in words in the same places. -/
def Text.CaseRun.keeps (run : CaseRun) : Bool :=
  (List.range' run.range.first (run.range.last + 1 - run.range.first)).all fun n =>
    !run.range.contains n || decide (SameClass (Char.ofNat (run.lower n)) (Char.ofNat n))

/-- Most runs stay among the characters that begin words, and the others are short. -/
theorem lowering_keeps : (Table.lowering.all fun run => run.begins || run.avoids || run.keeps) = true := by
  decide +kernel

theorem SameClass.of_start (hc : isIdentifierStart c = true) (hd : isIdentifierStart d = true) : SameClass c d :=
  ⟨hc.trans hd.symm, (isIdentifierContinue_of_start hc).trans (isIdentifierContinue_of_start hd).symm⟩

theorem start_of_begins {first last n : Nat} (h : begins first last = true) (hfirst : first ≤ n) (hlast : n ≤ last) :
    isIdentifierStart (Char.ofNat n) = true := by
  simp only [begins, Bool.and_eq_true, Bool.or_eq_true, Nat.ble_eq, Nat.blt_eq, Nat.beq_eq, List.any_eq_true] at h
  obtain ⟨⟨hbound, hscalar⟩, r, hr, ⟨hend, hbegin⟩, hstep⟩ := h
  have hvalid : n.isValidChar := by
    unfold Nat.isValidChar
    omega
  have hn : (Char.ofNat n).toNat = n := by
    rw [Char.ofNat, dif_pos hvalid]
    rfl
  have hascii : isAscii (Char.ofNat n) = false := by
    rw [isAscii, hn, decide_eq_false_iff_not]
    omega
  rw [isIdentifierStart, hascii, inRanges, hn, if_neg (by simp), List.any_eq_true]
  refine ⟨r, hr, ?_⟩
  rw [CharRange.contains, hstep, Nat.mod_one]
  simp only [beq_self_eq_true, Bool.and_true, Bool.and_eq_true, decide_eq_true_eq]
  omega

theorem not_continue_of_avoids {first last n : Nat} (h : avoids first last = true) (hfirst : first ≤ n)
    (hlast : n ≤ last) : isIdentifierContinue (Char.ofNat n) = false := by
  simp only [avoids, Bool.and_eq_true, Bool.or_eq_true, Nat.ble_eq, Nat.blt_eq, List.all_eq_true] at h
  obtain ⟨hbound, havoids⟩ := h
  rcases toNat_ofNat n with hn | hn
  · have hascii : isAscii (Char.ofNat n) = false := by
      rw [isAscii, hn, decide_eq_false_iff_not]
      omega
    have hranges : inRanges (Table.identifierStart ++ Table.identifierExtend) (Char.ofNat n) = false := by
      rw [inRanges, hn, List.any_eq_false]
      intro r hr hcontains
      simp only [CharRange.contains, Bool.and_eq_true, decide_eq_true_eq] at hcontains
      have hapart := havoids r hr
      omega
    rw [inRanges, List.any_append] at hranges
    rw [isIdentifierContinue, hascii, if_neg (by simp)]
    exact hranges
  · -- A code point that is no character becomes the character zero.
    have hzero : Char.ofNat n = '\x00' := Char.toNat_inj.mp hn
    rw [hzero]
    decide

theorem SameClass.of_not_continue (hc : isIdentifierContinue c = false) (hd : isIdentifierContinue d = false) :
    SameClass c d := by
  have hnot {e : Char} (he : isIdentifierContinue e = false) : isIdentifierStart e = false := by
    rw [← Bool.not_eq_true]
    intro hstart
    exact nomatch he.symm.trans (isIdentifierContinue_of_start hstart)
  exact ⟨(hnot hc).trans (hnot hd).symm, hc.trans hd.symm⟩

/-- A run keeps the places of characters in words. -/
theorem sameClass_lower {run : CaseRun} (hrun : run ∈ Table.lowering) (hc : run.range.contains c.toNat = true) :
    SameClass (Char.ofNat (run.lower c.toNat)) c := by
  have hcheck := List.all_eq_true.mp lowering_keeps run hrun
  have hrange := hc
  simp only [CharRange.contains, Bool.and_eq_true, decide_eq_true_eq] at hrange
  -- A run is shifted as a whole, so it keeps the order of its characters.
  have hlower : run.lower run.range.first ≤ run.lower c.toNat ∧ run.lower c.toNat ≤ run.lower run.range.last := by
    unfold CaseRun.lower
    omega
  simp only [Bool.or_eq_true, CaseRun.begins, CaseRun.avoids, CaseRun.keeps, Bool.and_eq_true, List.all_eq_true,
    List.mem_range'_1, Bool.not_eq_true', decide_eq_true_eq] at hcheck
  rcases hcheck with (⟨hc, hd⟩ | ⟨hc, hd⟩) | hkeeps
  · have hstart := start_of_begins hc hrange.1.1 hrange.1.2
    rw [Char.ofNat_toNat] at hstart
    exact .of_start (start_of_begins hd hlower.1 hlower.2) hstart
  · have hnot := not_continue_of_avoids hc hrange.1.1 hrange.1.2
    rw [Char.ofNat_toNat] at hnot
    exact .of_not_continue (not_continue_of_avoids hd hlower.1 hlower.2) hnot
  · have hkept := hkeeps c.toNat ⟨hrange.1.1, by omega⟩
    rw [Char.ofNat_toNat, hc] at hkept
    exact hkept.resolve_left (by simp)

theorem sameClass_toLower (hc : isAscii c = true) : SameClass c.toLower c := by
  have hall : ((List.range 128).all fun n => decide (SameClass (Char.ofNat n).toLower (Char.ofNat n))) = true := by
    decide +kernel
  have hmem : c.toNat ∈ List.range 128 := by
    rw [List.mem_range]
    simpa [isAscii] using hc
  simpa using List.all_eq_true.mp hall c.toNat hmem

/-- Lowering a character begins with one that stands in words in the same places, and what follows stands in words. -/
theorem lowerChar_keeps (c : Char) :
    ∃ d ds, lowerChar c = d :: ds ∧ SameClass d c ∧ ∀ e ∈ ds, isIdentifierContinue e = true := by
  have hnil : ∀ e ∈ ([] : List Char), isIdentifierContinue e = true := by simp
  rw [lowerChar]
  split
  next hascii => exact ⟨_, [], rfl, sameClass_toLower hascii, hnil⟩
  next =>
    split
    next hdotted =>
      -- The capital with a dot is the one character that becomes two, and the dot stands in words.
      have hcapital : isIdentifierStart '\u0130' = true := by decide +kernel
      have hdot : isIdentifierContinue '\u0307' = true := by decide +kernel
      rw [beq_iff_eq.mp hdotted]
      exact ⟨'i', ['\u0307'], rfl, .of_start (by decide) hcapital, List.forall_mem_singleton.mpr hdot⟩
    next =>
      split
      next run hrun =>
        have hcontains : run.range.contains c.toNat = true := by simpa using List.find?_some hrun
        exact ⟨_, [], rfl, sameClass_lower (List.mem_of_find?_eq_some hrun) hcontains, hnil⟩
      next => exact ⟨c, [], rfl, ⟨rfl, rfl⟩, hnil⟩

/-- The characters of a lowered text stand in words when those of the text do. -/
theorem lowerChar_continue : (∀ d ∈ lowerChar c, isIdentifierContinue d = true) ↔ isIdentifierContinue c = true := by
  obtain ⟨d, ds, hlower, hclass, hds⟩ := lowerChar_keeps c
  rw [hlower, List.forall_mem_cons, hclass.2, and_iff_left hds]

theorem snakeAfter_continue {before : Option Char} :
    (∀ d ∈ snakeAfter before cs, isIdentifierContinue d = true) ↔ ∀ c ∈ cs, isIdentifierContinue c = true := by
  induction cs generalizing before with
  | nil => simp [snakeAfter]
  | cons c cs ih =>
    have hunderscore (b : Bool) : ∀ d ∈ if b then ['_'] else [], isIdentifierContinue d = true := by
      cases b
      · simp
      · exact List.forall_mem_singleton.mpr (by decide)
    rw [snakeAfter, List.forall_mem_append, List.forall_mem_append, List.forall_mem_cons, ih, lowerChar_continue,
      and_iff_right (hunderscore _)]

theorem lowerAfter_continue :
    (∀ d ∈ lowerAfter before cs, isIdentifierContinue d = true) ↔ ∀ c ∈ cs, isIdentifierContinue c = true := by
  induction cs generalizing before with
  | nil => simp [lowerAfter]
  | cons c cs ih =>
    rw [lowerAfter, List.forall_mem_append, List.forall_mem_cons, ih]
    refine and_congr_left fun _ => ?_
    split
    next hsigma =>
      -- Both small sigmas stand in words, like the capital.
      have hsigmas : ['Σ', 'σ', 'ς'].all isIdentifierContinue = true := by decide +kernel
      simp only [List.all_cons, List.all_nil, Bool.and_true, Bool.and_eq_true] at hsigmas
      rw [beq_iff_eq.mp hsigma, List.forall_mem_singleton]
      refine iff_of_true ?_ hsigmas.1
      split
      · exact hsigmas.2.2
      · exact hsigmas.2.1
    next => exact lowerChar_continue

/-- A name in snake case is a word when the name is. -/
theorem isWord_snakeCase {name : String} : IsWord (snakeCase name).toList ↔ IsWord name.toList := by
  rw [snakeCase, String.toList_ofList, IsWord, IsWord, snakeAfter_continue]
  refine and_congr_left fun _ => ?_
  cases hname : name.toList with
  | nil => rfl
  | cons c cs =>
    -- No underscore comes before the first character.
    obtain ⟨d, ds, hlower, hclass, -⟩ := lowerChar_keeps c
    simp [snakeAfter, beginsWord, hlower, hclass.1]

end

/-! ### Identifiers and names of members -/

section

variable {cs ds : List Char} {id : String} {key argument : TypeExpr}

/-- What can begin a word can follow one. -/
theorem isWord_append (hds : ∀ d ∈ ds.head?, isIdentifierStart d = true) :
    IsWord (cs ++ ds) ↔ IsWord cs ∧ ∀ d ∈ ds, isIdentifierContinue d = true := by
  cases cs with
  | nil => simpa [IsWord] using fun _ => hds
  | cons c cs => rw [List.cons_append, isWord_cons, isWord_cons, List.forall_mem_append, and_assoc]

/-- The name of an accessor reads back when every character of the identifier can stand in a word. -/
theorem accessorName_readsBack : identifier (accessorName id) = .ok (accessorName id) ↔
    ∀ c ∈ id.toList, isIdentifierContinue c = true := by
  have htext : (accessorName id).toList = 'r' :: ("esolve_".toList ++ id.toList) := by
    rw [accessorName, String.toList_append]
    rfl
  have hfree : accessorName id ∉ reservedWords := by
    intro hreserved
    have hbegins : reservedWords.all (fun word => !"resolve_".toList.isPrefixOf word.toList) = true := by decide
    have hnot := List.all_eq_true.mp hbegins _ hreserved
    rw [Bool.not_eq_true', ← Bool.not_eq_true, List.isPrefixOf_iff_prefix, accessorName, String.toList_append] at hnot
    exact hnot (List.prefix_append _ _)
  have hfront : "esolve_".toList.all isIdentifierContinue = true := by decide
  rw [identifier_eq_self_iff_isWord (by simp [htext]) (afterMark_of_ne (by simp [htext])) hfree, htext, isWord_cons,
    List.forall_mem_append, and_iff_right (List.all_eq_true.mp hfront)]
  exact and_iff_right (by decide)

/-- The name of a cell reads back when the identifier is a word, where its characters can stand in one. -/
theorem cellName_readsBack (hid : ∀ c ∈ id.toList, isIdentifierContinue c = true) :
    identifier (cellName id) = .ok (cellName id) ↔ IsWord id.toList := by
  have htext : (cellName id).toList = id.toList ++ "_instance".toList := by rw [cellName, String.toList_append]
  have hback : "_instance".toList.all isIdentifierContinue = true := by decide
  have hfree : cellName id ∉ reservedWords := by
    intro hreserved
    have hends : reservedWords.all (fun word => !"_instance".toList.isSuffixOf word.toList) = true := by decide
    have hnot := List.all_eq_true.mp hends _ hreserved
    rw [Bool.not_eq_true', ← Bool.not_eq_true, List.isSuffixOf_iff_suffix, htext] at hnot
    exact hnot (List.suffix_append _ _)
  -- A hash mark stands in no word, so the name has no mark of raw names.
  have hmark : afterMark (cellName id).toList = (cellName id).toList := by
    refine afterMark_of_ne fun heq => ?_
    rw [htext] at heq
    have hmem := List.mem_of_getElem? heq
    have hall := List.forall_mem_append.mpr ⟨hid, List.all_eq_true.mp hback⟩
    exact ne_of_not_continue (by decide) (hall _ hmem) rfl
  have hstart : ∀ d ∈ "_instance".toList.head?, isIdentifierStart d = true := by
    rintro d hd
    obtain rfl := Option.some.inj hd
    decide
  rw [identifier_eq_self_iff_isWord (by simp [htext]) hmark hfree, htext, isWord_append hstart,
    and_iff_left (List.all_eq_true.mp hback)]

/-- The names of the members that an identifier names read back when the identifier is a word. -/
theorem memberNames_readBack : (identifier (accessorName id) = .ok (accessorName id) ∧
    identifier (cellName id) = .ok (cellName id)) ↔ IsWord id.toList := by
  rw [accessorName_readsBack]
  constructor
  · rintro ⟨hid, hcell⟩
    exact (cellName_readsBack hid).mp hcell
  · intro h
    exact ⟨h.2, (cellName_readsBack h.2).mpr h⟩

/-- The characters that an argument contributes to an identifier, before they are lowered. -/
def TypeExpr.letters (argument : TypeExpr) : List Char :=
  match argument.simpleName? with
  | some name => name.toList
  | none => argument.display.toList.filter isWordChar

/-- The name of the key is a word without the mark of raw names, and the letters of its arguments stand in words. -/
structure TypeExpr.IsNameable (key : TypeExpr) : Prop where
  name : ∀ name, key.simpleName? = some name → IsWord name.toList
  arguments : ∀ a ∈ key.typeArguments, ∀ c ∈ a.letters, isIdentifierContinue c = true

theorem argumentName_of_nameless (h : argument.simpleName? = none) :
    argumentName argument = String.ofList (lowerText argument.letters) := by
  rw [argumentName, TypeExpr.letters, h]

theorem argumentName_continue : (∀ c ∈ (argumentName argument).toList, isIdentifierContinue c = true) ↔
    ∀ c ∈ argument.letters, isIdentifierContinue c = true := by
  unfold argumentName TypeExpr.letters
  cases argument.simpleName? with
  | some name =>
    dsimp only
    rw [snakeCase, String.toList_ofList, snakeAfter_continue]
  | none =>
    dsimp only
    rw [lowerText, String.toList_ofList, lowerAfter_continue]

/-- The identifier of a key is a word when the key is one after which members can be named. -/
theorem isWord_serviceIdentifier (h : serviceIdentifier key = .ok id) : IsWord id.toList ↔ key.IsNameable := by
  unfold serviceIdentifier at h
  split at h
  next name hname =>
    obtain rfl := Except.ok.inj h
    -- What follows the name begins with an underscore, so that the name alone decides how the identifier begins.
    have htext : (String.join (snakeCase name :: key.typeArguments.flatMap fun a =>
        [argumentSeparator, argumentName a])).toList = (snakeCase name).toList ++
          key.typeArguments.flatMap fun a => '_' :: '_' :: (argumentName a).toList := by
      simp [String.toList_join, List.flatMap_assoc, argumentSeparator]
    have hstart : ∀ d ∈ (key.typeArguments.flatMap fun a => '_' :: '_' :: (argumentName a).toList).head?,
        isIdentifierStart d = true := by
      cases key.typeArguments with
      | nil => simp
      | cons a rest =>
        rintro d hd
        obtain rfl := Option.some.inj hd
        decide
    have hunderscore : isIdentifierContinue '_' = true := by decide
    have hpiece (a : TypeExpr) : (∀ c ∈ '_' :: '_' :: (argumentName a).toList, isIdentifierContinue c = true) ↔
        ∀ c ∈ a.letters, isIdentifierContinue c = true := by
      rw [List.forall_mem_cons, List.forall_mem_cons, and_iff_right hunderscore, and_iff_right hunderscore,
        argumentName_continue]
    rw [htext, isWord_append hstart, isWord_snakeCase, List.forall_mem_flatMap]
    simp only [hpiece]
    constructor
    · rintro ⟨hword, harguments⟩
      refine ⟨fun name' hname' => ?_, harguments⟩
      obtain rfl := Option.some.inj (hname.symm.trans hname')
      exact hword
    · exact fun h => ⟨h.name name hname, h.arguments⟩
  next => cases h

end

/-! ### Keys after which members can be named -/

section

variable {name : String} {o : Options} {rs : List Registration}

/-- Where members can be named after every key, a name that is refused is that of a function that makes instances. -/
theorem exists_construction_of_badIdentifier (ho : o.validate = .ok ())
    (hkeys : ∀ r ∈ rs, checkKey r.key = .ok () ∧ r.key.Written) (hnameable : ∀ r ∈ rs, r.key.IsNameable)
    (h : (Container.ofRegistrations o rs).outcome = .error (.badIdentifier name)) :
    ∃ r ∈ rs, r.construction.name? = some name ∧ ¬ IsIdentifier name := by
  obtain ⟨-, root, nested, -, -, herror⟩ := Container.ofRegistrations_refuses ho hkeys
  obtain ⟨r, hr, id, hid, hname, hbad⟩ : ∃ r ∈ rs, ∃ id, serviceIdentifier r.key = .ok id ∧ name ∈ r.names id ∧
      ¬ IsIdentifier name := by
    rcases ((herror _).1.mp h).cause with ⟨_, _, _, heq⟩ | ⟨_, _, _, _, heq⟩ | ⟨r, hr, id, hid, bad, hname, hbad, heq⟩
    · cases heq
    · cases heq
    · obtain rfl := badIdentifier_injective heq
      exact ⟨r, hr, id, toOption_eq_some.mp hid, hname, hbad⟩
  obtain ⟨haccessor, hcell⟩ := memberNames_readBack.mpr ((isWord_serviceIdentifier hid).mpr (hnameable r hr))
  -- The names that are made from the key read back, so they are identifiers.
  rw [Registration.names, List.mem_cons, List.mem_append, Option.mem_toList] at hname
  rcases hname with rfl | hname | hname
  · exact absurd ⟨_, haccessor⟩ hbad
  · exact ⟨r, hr, hname, hbad⟩
  · split at hname
    · cases hname
    · rw [List.mem_singleton.mp hname] at hbad
      exact absurd ⟨_, hcell⟩ hbad

end

/-- A type that is read and can be a key has an identifier, and the names of members that are made from it read back
exactly when the key is one after which members can be named. Where every key of some registrations is such a one, a
name that is refused is not made from a key. -/
theorem serviceIdentifier_nameable {text : String} {key : TypeExpr} {o : Options} {rs : List Registration}
    (hread : TypeExpr.ofText text = .ok key) (hkey : checkKey key = .ok ()) (ho : o.validate = .ok ())
    (hkeys : ∀ r ∈ rs, checkKey r.key = .ok () ∧ r.key.Written) :
    (∃ id, serviceIdentifier key = .ok id ∧
      ((identifier (accessorName id) = .ok (accessorName id) ∧ identifier (cellName id) = .ok (cellName id)) ↔
        key.IsNameable)) ∧
    ((∀ r ∈ rs, r.key.IsNameable) → ∀ name,
      (Container.ofRegistrations o rs).outcome = .error (.badIdentifier name) →
        ∃ r ∈ rs, r.construction.name? = some name ∧ ¬ IsIdentifier name) := by
  obtain ⟨id, hid⟩ := exists_serviceIdentifier hkey (TypeExpr.written_of_ofText hread)
  refine ⟨⟨id, hid, memberNames_readBack.trans (isWord_serviceIdentifier hid)⟩, fun hnameable name h => ?_⟩
  exact exists_construction_of_badIdentifier ho hkeys hnameable h

/-- The name of the text's key, if the text is a type that can be a key. -/
def keyName? (text : String) : Option String := do
  let key ← (TypeExpr.ofText text).toOption
  (checkKey key).toOption
  (serviceIdentifier key).toOption

theorem keyName?_eq_some {text id : String} (h : keyName? text = some id) :
    ∃ key, TypeExpr.ofText text = .ok key ∧ checkKey key = .ok () ∧ serviceIdentifier key = .ok id := by
  obtain ⟨key, hread, h⟩ := Option.bind_eq_some_iff.mp h
  obtain ⟨⟨⟩, hkey, hid⟩ := Option.bind_eq_some_iff.mp h
  exact ⟨key, toOption_eq_some.mp hread, toOption_eq_some.mp hkey, toOption_eq_some.mp hid⟩

/-- A clock with a factory whose name is two words. -/
def Sample.stalledClock : Registration := registered "Clock" .singleton (.factory "start it") false

theorem Sample.stalledClock_isNameable : stalledClock.key.IsNameable where
  name name hname := by
    obtain rfl := Option.some.inj hname
    have hletters : "Clock".toList.all isIdentifierContinue = true := by decide
    refine ⟨fun c hc => ?_, List.all_eq_true.mp hletters⟩
    obtain rfl := Option.some.inj hc
    decide
  arguments _ ha := nomatch ha

theorem Sample.stalledClock_refused :
    (Container.ofRegistrations {} [stalledClock]).outcome = .error (.badIdentifier "start it") := by
  have hsample : (match (Container.ofRegistrations {} [stalledClock]).outcome with
      | .error e => e == .badIdentifier "start it"
      | .ok _ => false) = true := by decide +kernel
  split at hsample
  next e he => rw [he, beq_iff_eq.mp hsample]
  next => cases hsample

/-- Members can be named after a key with a named argument and a nameless one, and after the key of a clock whose
factory cannot be called. -/
theorem serviceIdentifier_nameable_pair :
    (∃ key id, TypeExpr.ofText "Pair<crate::OrderLine, &mut Order>" = .ok key ∧ checkKey key = .ok () ∧
      serviceIdentifier key = .ok id ∧ id = "pair__order_line__mutorder" ∧ key.IsNameable) ∧
    (Container.ofRegistrations {} [Sample.stalledClock]).outcome = .error (.badIdentifier "start it") ∧
      ∃ r ∈ [Sample.stalledClock], r.construction.name? = some "start it" ∧ ¬ IsIdentifier "start it" := by
  have hname : keyName? "Pair<crate::OrderLine, &mut Order>" = some "pair__order_line__mutorder" := by decide +kernel
  have hmembers : (identifier (accessorName "pair__order_line__mutorder")).toOption =
        some (accessorName "pair__order_line__mutorder") ∧
      (identifier (cellName "pair__order_line__mutorder")).toOption =
        some (cellName "pair__order_line__mutorder") := by decide +kernel
  have hoptions : ({} : Options).validate = .ok () := by decide +kernel
  have hkeys : ∀ r ∈ [Sample.stalledClock], checkKey r.key = .ok () ∧ r.key.Written :=
    List.forall_mem_singleton.mpr ⟨by decide +kernel, .name "Clock"⟩
  obtain ⟨key, hread, hkey, hid⟩ := keyName?_eq_some hname
  obtain ⟨⟨id, hid', hplain⟩, hrefused⟩ := serviceIdentifier_nameable hread hkey hoptions hkeys
  obtain rfl := Except.ok.inj (hid.symm.trans hid')
  refine ⟨⟨key, _, hread, hkey, hid, rfl, ?_⟩, Sample.stalledClock_refused, ?_⟩
  · exact hplain.mp ⟨toOption_eq_some.mp hmembers.1, toOption_eq_some.mp hmembers.2⟩
  · exact hrefused (List.forall_mem_singleton.mpr Sample.stalledClock_isNameable) _ Sample.stalledClock_refused

/-- No member can be named after a type with a raw name. -/
theorem not_serviceIdentifier_nameable : ¬ ∀ (text : String) (key : TypeExpr), TypeExpr.ofText text = .ok key →
    checkKey key = .ok () → ∃ id, serviceIdentifier key = .ok id ∧
      identifier (accessorName id) = .ok (accessorName id) ∧ identifier (cellName id) = .ok (cellName id) := by
  intro h
  have hname : keyName? "r#type" = some "r#type" := by decide +kernel
  have hmember : (identifier (accessorName "r#type")).toOption = none := by decide +kernel
  obtain ⟨key, hread, hkey, hid⟩ := keyName?_eq_some hname
  obtain ⟨id, hid', haccessor, -⟩ := h _ key hread hkey
  obtain rfl := Except.ok.inj (hid.symm.trans hid')
  rw [toOption_eq_some.mpr haccessor] at hmember
  exact nomatch hmember

end ServiceContainer
