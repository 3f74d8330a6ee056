import ServiceContainer.Options.Layer
import ServiceContainer.Proofs.Names

/-!
# Names of variables

The name of a variable that is an option is the mark of all options and the key of one of them, in capitals or not. The
letters of these names are those of ASCII, and lowering leads to them from their capitals and from the sign of the
kelvin only. So a variable is for an option exactly when its whole name is, in lower case, what the option is called.

## Main definitions

* `plainLower` — the lower-case form of a character that leads to ASCII
* `variableName` — the name of the variable for an option, in lower case

## Main statements

* `lower_eq_iff` — which texts have a given lower-case form in ASCII
* `environmentEntry_iff` — which variables are for an option
-/

namespace ServiceContainer

open Text

/-! ### Lowering to ASCII -/

/-- The sign of the kelvin, whose lower-case form is the letter k. -/
def kelvin : Char := '\u212a'

/-- The lower-case form is an ASCII character. -/
def LowersToAscii (c : Char) : Prop := isAscii c = true ∨ c = kelvin

/-- The lower-case form of a character whose lower-case form is in ASCII. -/
def plainLower (c : Char) : Char := if c = kelvin then 'k' else c.toLower

/-- Code points of characters beyond ASCII, none of which is the sign of the kelvin. -/
def isBeyond (first last : Int) : Bool :=
  128 ≤ first && (last < 0xD800 || 0xDFFF < first && last < 0x110000) && (last < 0x212A || 0x212A < first)

/-- All runs but that of the sign of the kelvin lead to characters beyond ASCII. -/
theorem lowering_isBeyond : (Table.lowering.all fun run => run.range == ⟨0x212A, 0x212A, 1⟩ ||
    isBeyond (run.range.first + run.shift) (run.range.last + run.shift)) = true := by
  decide

section

variable {c d : Char} {before cs : List Char}

theorem toNat_of_isBeyond {first last : Int} (h : isBeyond first last = true) {n : Int} (hfirst : first ≤ n)
    (hlast : n ≤ last) :
    isAscii (Char.ofNat n.toNat) = false ∧ Char.ofNat n.toNat ≠ kelvin := by
  simp only [isBeyond, Bool.and_eq_true, Bool.or_eq_true, decide_eq_true_eq] at h
  have hvalid : Nat.isValidChar n.toNat := by
    unfold Nat.isValidChar
    omega
  have hnat : (Char.ofNat n.toNat).toNat = n.toNat := by
    rw [Char.ofNat, dif_pos hvalid]
    rfl
  constructor
  · rw [isAscii, hnat, decide_eq_false_iff_not]
    omega
  · intro heq
    have hkelvin : (Char.ofNat n.toNat).toNat = 0x212A := by rw [heq]; rfl
    omega

/-- A character is in ASCII, or is the sign of the kelvin, or its lower-case form is not all in ASCII. -/
theorem lowerChar_cases (c : Char) :
    (isAscii c = true ∧ lowerChar c = [c.toLower]) ∨ (c = kelvin ∧ lowerChar c = ['k']) ∨
      (c = '\u0130' ∧ lowerChar c = ['i', '\u0307']) ∨
      ∃ d, lowerChar c = [d] ∧ isAscii d = false ∧ d ≠ kelvin := by
  rw [lowerChar]
  by_cases hascii : isAscii c = true
  · exact .inl ⟨hascii, if_pos hascii⟩
  by_cases hdotted : c = '\u0130'
  · exact .inr (.inr (.inl ⟨hdotted, by rw [if_neg hascii, if_pos (beq_iff_eq.mpr hdotted)]⟩))
  by_cases hkelvin : c = kelvin
  · subst hkelvin
    exact .inr (.inl ⟨rfl, by decide⟩)
  rw [if_neg hascii, if_neg (by simpa using hdotted)]
  refine .inr (.inr (.inr ?_))
  split
  next run hrun =>
    have hcheck := List.all_eq_true.mp lowering_isBeyond run (List.mem_of_find?_eq_some hrun)
    have hrange := List.find?_some hrun
    simp only [CharRange.contains, Bool.and_eq_true, decide_eq_true_eq] at hrange
    obtain hsign | hbeyond := Bool.or_eq_true_iff.mp hcheck
    · -- The run of the sign of the kelvin holds no other character.
      rw [beq_iff_eq.mp hsign] at hrange
      have hsame : c.toNat = 0x212A := Nat.le_antisymm hrange.1.2 hrange.1.1
      exact absurd (Char.toNat_inj.mp hsame) hkelvin
    · obtain ⟨hd, hne⟩ := toNat_of_isBeyond hbeyond (n := c.toNat + run.shift) (by omega) (by omega)
      exact ⟨_, rfl, hd, hne⟩
  next => exact ⟨c, rfl, by simpa using hascii, hkelvin⟩

/-- What holds of the first 128 characters holds of every character in ASCII. -/
theorem forall_ascii {p : Char → Bool} (hall : ((List.range 128).all fun n => p (Char.ofNat n)) = true)
    (hc : isAscii c = true) : p c = true := by
  have hmem : c.toNat ∈ List.range 128 := List.mem_range.mpr (by simpa [isAscii] using hc)
  simpa using List.all_eq_true.mp hall c.toNat hmem

/-- What lowering leads to is in lower case. -/
theorem plainLower_of_mem_lowerChar (hd : d ∈ lowerChar c) : plainLower d = d := by
  have hother : isAscii d = false → d ≠ kelvin → plainLower d = d := by
    intro hd hne
    have hlarge : 128 ≤ d.toNat := by simpa [isAscii] using hd
    rw [plainLower, if_neg hne, Char.toLower, dif_neg]
    intro hupper
    have hlast : d.toNat ≤ 90 := hupper.2
    omega
  obtain ⟨hc, hlower⟩ | ⟨-, hlower⟩ | ⟨-, hlower⟩ | ⟨e, hlower, he, hne⟩ := lowerChar_cases c <;> rw [hlower] at hd
  · obtain rfl := List.mem_singleton.mp hd
    have hall := forall_ascii (p := fun c => plainLower c.toLower == c.toLower) (by decide) hc
    exact beq_iff_eq.mp hall
  · obtain rfl := List.mem_singleton.mp hd
    decide
  · obtain rfl | hd := List.mem_cons.mp hd
    · decide
    · obtain rfl := List.mem_singleton.mp hd
      exact hother (by decide) (by decide)
  · obtain rfl := List.mem_singleton.mp hd
    exact hother he hne

/-- Lowering leads to no point and no bracket from elsewhere. -/
theorem eq_of_mem_lowerChar (hd : d ∈ lowerChar c) (hmark : d = '.' ∨ d = '[') : c = d := by
  obtain ⟨hc, hlower⟩ | ⟨-, hlower⟩ | ⟨-, hlower⟩ | ⟨e, hlower, he, -⟩ := lowerChar_cases c <;> rw [hlower] at hd
  · obtain rfl := List.mem_singleton.mp hd
    have hall := forall_ascii (p := fun c => !(c.toLower == '.' || c.toLower == '[') || c == c.toLower)
      (by decide) hc
    obtain hnot | heq := Bool.or_eq_true_iff.mp hall
    · exact absurd hmark (by simpa using hnot)
    · exact beq_iff_eq.mp heq
  · obtain rfl := List.mem_singleton.mp hd
    exact absurd hmark (by decide)
  · obtain rfl | hd := List.mem_cons.mp hd
    · exact absurd hmark (by decide)
    · obtain rfl := List.mem_singleton.mp hd
      exact absurd hmark (by decide)
  · obtain rfl := List.mem_singleton.mp hd
    obtain rfl | rfl := hmark <;> exact absurd he (by decide)

theorem lowerChar_of_lowersToAscii (hc : LowersToAscii c) : lowerChar c = [plainLower c] := by
  by_cases hkelvin : c = kelvin
  · subst hkelvin
    decide
  · have hascii : isAscii c = true := hc.resolve_right hkelvin
    rw [lowerChar, if_pos hascii, plainLower, if_neg hkelvin]

theorem lowersToAscii_of_lowerChar (hc : ∀ d ∈ lowerChar c, isAscii d = true) : LowersToAscii c := by
  obtain ⟨hascii, -⟩ | ⟨hkelvin, -⟩ | ⟨-, hlower⟩ | ⟨d, hlower, hd, -⟩ := lowerChar_cases c
  · exact .inl hascii
  · exact .inr hkelvin
  · rw [hlower] at hc
    exact absurd (hc '\u0307' (by simp)) (by decide)
  · rw [hlower] at hc
    exact absurd (hc d (List.mem_singleton.mpr rfl)) (by simp [hd])

/-! ### Lowering texts -/

theorem lowerAfter_of_lowersToAscii (hcs : ∀ c ∈ cs, LowersToAscii c) : lowerAfter before cs = cs.map plainLower := by
  induction cs generalizing before with
  | nil => rfl
  | cons c cs ih =>
    obtain ⟨hc, hcs⟩ := List.forall_mem_cons.mp hcs
    have hsigma : c ≠ 'Σ' := by
      rintro rfl
      exact absurd hc (by unfold LowersToAscii; decide)
    rw [lowerAfter, if_neg (by simpa using hsigma), lowerChar_of_lowersToAscii hc, ih hcs]
    rfl

theorem lowersToAscii_of_lowerAfter (hcs : ∀ d ∈ lowerAfter before cs, isAscii d = true) :
    ∀ c ∈ cs, LowersToAscii c := by
  induction cs generalizing before with
  | nil => simp
  | cons c cs ih =>
    rw [lowerAfter, List.forall_mem_append] at hcs
    refine List.forall_mem_cons.mpr ⟨?_, ih hcs.2⟩
    by_cases hsigma : c = 'Σ'
    · -- Neither form of the small sigma is in ASCII.
      have hfirst := hcs.1
      rw [if_pos (beq_iff_eq.mpr hsigma), List.forall_mem_singleton] at hfirst
      split at hfirst <;> exact absurd hfirst (by decide)
    · exact lowersToAscii_of_lowerChar (by simpa [hsigma] using hcs.1)

theorem plainLower_of_mem_lowerAfter (hd : d ∈ lowerAfter before cs) : plainLower d = d := by
  induction cs generalizing before with
  | nil => exact nomatch hd
  | cons c cs ih =>
    rw [lowerAfter, List.mem_append] at hd
    obtain hd | hd := hd
    · split at hd
      · obtain rfl := List.mem_singleton.mp hd
        split <;> decide
      · exact plainLower_of_mem_lowerChar hd
    · exact ih hd

theorem mem_of_mem_lowerAfter (hd : d ∈ lowerAfter before cs) (hmark : d = '.' ∨ d = '[') : d ∈ cs := by
  induction cs generalizing before with
  | nil => exact nomatch hd
  | cons c cs ih =>
    rw [lowerAfter, List.mem_append] at hd
    obtain hd | hd := hd
    · split at hd
      · obtain rfl := List.mem_singleton.mp hd
        split at hmark <;> exact absurd hmark (by decide)
      · exact List.mem_cons.mpr (.inl (eq_of_mem_lowerChar hd hmark).symm)
    · exact List.mem_cons_of_mem c (ih hd)

end

section

variable {s key name : String}

/-- The characters of the text are in ASCII. -/
def IsAsciiText (s : String) : Prop := ∀ c ∈ s.toList, isAscii c = true

/-- A text has a lower-case form in ASCII when all of its characters have, and then it is made of theirs. -/
theorem lower_eq_iff (hkey : IsAsciiText key) :
    lower s = key ↔ (∀ c ∈ s.toList, LowersToAscii c) ∧ s.toList.map plainLower = key.toList := by
  rw [lower, ← String.toList_inj, String.toList_ofList, lowerText]
  constructor
  · intro heq
    have hplain := lowersToAscii_of_lowerAfter fun d hd => hkey d (heq ▸ hd)
    exact ⟨hplain, lowerAfter_of_lowersToAscii hplain ▸ heq⟩
  · rintro ⟨hplain, hmap⟩
    rw [lowerAfter_of_lowersToAscii hplain, hmap]

theorem plainLower_lower : (lower s).toList.map plainLower = (lower s).toList := by
  rw [lower, String.toList_ofList]
  exact (List.map_congr_left fun d hd => plainLower_of_mem_lowerAfter hd).trans (List.map_id _)

/-- Lowering twice is lowering once, where it leads to ASCII. -/
theorem lower_lower_eq_iff (hkey : IsAsciiText key) : lower (lower s) = key ↔ lower s = key := by
  constructor
  · intro h
    rw [lower_eq_iff hkey, plainLower_lower] at h
    exact String.toList_inj.mp h.2
  · rintro rfl
    exact (lower_eq_iff hkey).mpr ⟨fun c hc => .inl (hkey c hc), plainLower_lower⟩

/-! ### Variables -/

/-- The name of the variable for an option, in lower case. -/
def variableName (key : String) : String := "di_codegen_" ++ key

/-- The entry that a variable is, if its name begins as those of options do. -/
def variableSetting? (v : String × String) : Option (String × Document) :=
  if (v.1.toList.take variableMark.length).map Char.toLower == variableMark then
    some (lower (String.ofList (v.1.toList.drop variableMark.length)), variableValue v.2)
  else none

theorem environmentEntries_eq (environment : List (String × String)) :
    environmentEntries environment = environment.filterMap variableSetting? := rfl

/-- The mark has no letter that the sign of the kelvin stands for. -/
theorem map_toLower_eq_mark {cs : List Char} :
    cs.map Char.toLower = variableMark ↔ (∀ c ∈ cs, LowersToAscii c) ∧ cs.map plainLower = variableMark := by
  have hkelvin : kelvin.toLower ∉ variableMark ∧ plainLower kelvin ∉ variableMark := by decide
  have hmark : variableMark.all isAscii = true := by decide
  have hcongr (hne : ∀ c ∈ cs, c ≠ kelvin) : cs.map plainLower = cs.map Char.toLower :=
    List.map_congr_left fun c hc => by rw [plainLower, if_neg (hne c hc)]
  constructor
  · intro h
    have hmem : ∀ c ∈ cs, c.toLower ∈ variableMark := fun c hc => h ▸ List.mem_map_of_mem hc
    have hne : ∀ c ∈ cs, c ≠ kelvin := by
      rintro c hc rfl
      exact hkelvin.1 (hmem _ hc)
    refine ⟨fun c hc => .inl ?_, (hcongr hne).trans h⟩
    -- Outside ASCII a character would stay as it is.
    by_cases hupper : c.val ≥ 'A'.val ∧ c.val ≤ 'Z'.val
    · have hlast : c.toNat ≤ 90 := hupper.2
      exact decide_eq_true (by omega)
    · have hsame := List.all_eq_true.mp hmark _ (hmem c hc)
      rwa [Char.toLower, dif_neg hupper] at hsame
  · rintro ⟨-, h⟩
    have hne : ∀ c ∈ cs, c ≠ kelvin := by
      rintro c hc rfl
      exact hkelvin.2 (h ▸ List.mem_map_of_mem hc)
    exact (hcongr hne).symm.trans h

/-- A variable is for an option when its name is, in lower case, the name of the variable for the option. -/
theorem variableSetting?_iff (hkey : IsAsciiText key) {text : String} {d : Document} :
    (∃ k, variableSetting? (name, text) = some (k, d) ∧ lower k = key) ↔
      lower name = variableName key ∧ d = variableValue text := by
  have hname : IsAsciiText (variableName key) := by
    intro c hc
    rw [variableName, String.toList_append, List.mem_append] at hc
    obtain hc | hc := hc
    · exact List.all_eq_true.mp (by decide : "di_codegen_".toList.all isAscii = true) c hc
    · exact hkey c hc
  have hsplit := List.take_append_drop variableMark.length name.toList
  simp only [variableSetting?, Option.ite_none_right_eq_some, beq_iff_eq, Option.some.injEq, Prod.mk.injEq]
  rw [lower_eq_iff hname, map_toLower_eq_mark, variableName, String.toList_append]
  constructor
  · rintro ⟨k, ⟨⟨htake, hmark⟩, rfl, rfl⟩, hk⟩
    rw [lower_lower_eq_iff hkey, lower_eq_iff hkey, String.toList_ofList] at hk
    refine ⟨⟨?_, ?_⟩, rfl⟩
    · rw [← hsplit, List.forall_mem_append]
      exact ⟨htake, hk.1⟩
    · rw [← hsplit, List.map_append, hmark, hk.2]
      rfl
  · rintro ⟨⟨hplain, hmap⟩, rfl⟩
    rw [← hsplit, List.map_append] at hmap
    have hlength : ((name.toList.take variableMark.length).map plainLower).length = variableMark.length := by
      have htotal := congrArg List.length hmap
      simp only [List.length_append, List.length_map, List.length_take, List.length_drop] at htotal ⊢
      have hmark : "di_codegen_".toList.length = variableMark.length := rfl
      omega
    obtain ⟨htake, hdrop⟩ := List.append_inj hmap hlength
    rw [← hsplit, List.forall_mem_append] at hplain
    refine ⟨_, ⟨⟨hplain.1, htake⟩, rfl, rfl⟩, ?_⟩
    rw [lower_lower_eq_iff hkey, lower_eq_iff hkey, String.toList_ofList]
    exact ⟨hplain.2, hdrop⟩

end

end ServiceContainer
