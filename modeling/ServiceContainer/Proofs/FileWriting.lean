import Mathlib.Data.List.Induction
import ServiceContainer.FileTree

/-!
# What a write leaves of a file tree

A text that is written stands at the place that its path names, and nothing else is different afterwards but that there
may be more folders. So everything that could be reached before is reached as before, and what is read there is the
same unless it is the written file itself.

## Main definitions

* `placeOf?` — the place that steps name, whatever there is on the way
* `FileTree.SameBut` — two trees that differ in one file and in further folders

## Main statements

* `FileTree.follow?_makeFolders` — the folders that are made lead to where the steps say
* `FileTree.write_accepted` — what a write leaves
-/

namespace ServiceContainer

/-! ### Places -/

/-- The place that steps from a place name. -/
def placeFrom? (place : List String) : List String → Option (List String)
  | [] => some place
  | step :: rest =>
    if step == ".." then (if place.isEmpty then none else placeFrom? place.dropLast rest)
    else placeFrom? (place ++ [step]) rest

/-- The place that steps name, whatever there is on the way. -/
def placeOf? (steps : List String) : Option (List String) := placeFrom? [] steps

namespace FileTree

variable {t u v : FileTree} {place q : List String} {text path : String}

/-- A step is followed from a folder: back to the place around it, or on to what the step names. -/
theorem follow?_cons_eq_some {step : String} {rest : List String} :
    t.follow? place (step :: rest) = some q ↔ t.isFolder place = true ∧
      ((step == "..") = true ∧ place.isEmpty = false ∧ t.follow? place.dropLast rest = some q ∨
        (step == "..") = false ∧ t.follow? (place ++ [step]) rest = some q) := by
  rw [follow?]
  cases t.isFolder place <;> cases step == ".." <;> cases place.isEmpty <;> simp

/-- Where steps can be followed, they lead to the place that they name. -/
theorem placeFrom?_of_follow? {steps : List String} (h : t.follow? place steps = some q) :
    placeFrom? place steps = some q := by
  induction steps generalizing place with
  | nil => exact h
  | cons step rest ih =>
    rw [placeFrom?]
    obtain ⟨-, ⟨hback, hplace, hrest⟩ | ⟨hon, hrest⟩⟩ := follow?_cons_eq_some.mp h
    · rw [if_pos hback, hplace, if_neg Bool.false_ne_true, ih hrest]
    · rw [hon, if_neg Bool.false_ne_true, ih hrest]

theorem follow?_append {front back : List String} :
    t.follow? place (front ++ back) = (t.follow? place front).bind (t.follow? · back) := by
  induction front generalizing place with
  | nil => rfl
  | cons step rest ih =>
    rw [List.cons_append, follow?, follow?]
    split
    · rfl
    · split
      · split
        · rfl
        · exact ih
      · exact ih

/-! ### Trees that differ in folders only -/

/-- The second tree has the same files and may have more folders. -/
structure Widens (t u : FileTree) : Prop where
  files : u.files = t.files
  blobs : u.blobs = t.blobs
  folders : ∀ place, t.isFolder place = true → u.isFolder place = true

theorem Widens.refl (t : FileTree) : t.Widens t := ⟨rfl, rfl, fun _ h => h⟩

theorem Widens.trans (h : t.Widens u) (h' : u.Widens v) : t.Widens v :=
  ⟨h'.files.trans h.files, h'.blobs.trans h.blobs, fun place hplace => h'.folders place (h.folders place hplace)⟩

theorem Widens.text?_eq (h : t.Widens u) (place : List String) : u.text? place = t.text? place := by
  rw [text?, text?, h.files]

theorem Widens.isFile_eq (h : t.Widens u) (place : List String) : u.isFile place = t.isFile place := by
  rw [isFile, isFile, h.text?_eq, h.blobs]

theorem isFolder_nil (t : FileTree) : t.isFolder [] = true := rfl

theorem widens_folder (t : FileTree) (next : List String) : t.Widens { t with folders := t.folders ++ [next] } := by
  refine ⟨rfl, rfl, fun place hplace => ?_⟩
  rw [isFolder, Bool.or_eq_true] at hplace ⊢
  exact hplace.imp_right fun hmem => by simp_all

/-- The place and every place on the way to it are folders. -/
def Open (t : FileTree) (place : List String) : Prop := ∀ q, q <+: place → t.isFolder q = true

theorem open_nil (t : FileTree) : t.Open [] := by
  intro q hq
  rw [List.prefix_nil.mp hq]
  exact t.isFolder_nil

theorem Open.dropLast (h : t.Open place) : t.Open place.dropLast := fun q hq => h q (hq.trans (List.dropLast_prefix _))

theorem Open.widens (h : t.Open place) (hu : t.Widens u) : u.Open place := fun q hq => hu.folders q (h q hq)

theorem Open.concat {step : String} (h : t.Open place) (hnext : t.isFolder (place ++ [step]) = true) :
    t.Open (place ++ [step]) := by
  intro q hq
  rcases List.prefix_concat_iff.mp hq with rfl | hq
  · exact hnext
  · exact h q hq

/-- Where steps can be followed, they can be followed among more folders. -/
theorem follow?_of_folders (hfolders : ∀ place, t.isFolder place = true → u.isFolder place = true)
    {steps : List String} (h : t.follow? place steps = some q) : u.follow? place steps = some q := by
  induction steps generalizing place with
  | nil => exact h
  | cons step rest ih =>
    rw [follow?_cons_eq_some] at h ⊢
    obtain ⟨hplace, hback | hon⟩ := h
    · exact ⟨hfolders place hplace, .inl ⟨hback.1, hback.2.1, ih hback.2.2⟩⟩
    · exact ⟨hfolders place hplace, .inr ⟨hon.1, ih hon.2⟩⟩

theorem widens_makeFolders (t : FileTree) (place steps : List String) : t.Widens (t.makeFolders place steps).1 := by
  induction steps generalizing t place with
  | nil => exact .refl t
  | cons step rest ih =>
    rw [makeFolders]
    split
    · split
      · exact .refl t
      · exact ih t _
    · dsimp only
      split
      · exact ih t _
      · split
        · exact .refl t
        · exact (widens_folder t _).trans (ih _ _)

/-- The folders that are made lead to where the steps say, and that is a folder. -/
theorem follow?_makeFolders {steps : List String} (hplace : t.Open place)
    (h : t.makeFolders place steps = (u, some q)) : u.follow? place steps = some q ∧ u.isFolder q = true := by
  -- Steps back lead to folders because every place on the way is one.
  induction steps generalizing t place with
  | nil =>
    obtain ⟨rfl, hq⟩ := Prod.mk.inj h
    obtain rfl := Option.some.inj hq
    exact ⟨rfl, hplace _ List.prefix_rfl⟩
  | cons step rest ih =>
    have hwidens : t.Widens u := by
      have hall := t.widens_makeFolders place (step :: rest)
      rwa [h] at hall
    have hfolder : u.isFolder place = true := hwidens.folders _ (hplace _ List.prefix_rfl)
    rw [makeFolders] at h
    rw [follow?, hfolder, Bool.not_true, if_neg Bool.false_ne_true]
    split at h
    next hback =>
      rw [if_pos hback]
      split at h
      · exact nomatch (Prod.mk.inj h).2
      next hne =>
        rw [if_neg hne]
        exact ih hplace.dropLast h
    next hstep =>
      rw [if_neg hstep]
      dsimp only at h
      split at h
      next hnext => exact ih (hplace.concat hnext) h
      next =>
        split at h
        · exact nomatch (Prod.mk.inj h).2
        · have hmade := widens_folder t (place ++ [step])
          refine ih ((hplace.widens hmade).concat ?_) h
          simp [isFolder]

/-! ### Trees that differ in one file -/

theorem isFolder_put (t : FileTree) (place : List String) (text : String) (q : List String) :
    (t.put place text).isFolder q = t.isFolder q := by
  rw [put]
  split <;> rfl

theorem text?_put_self (t : FileTree) (place : List String) (text : String) :
    (t.put place text).text? place = some text := by
  rw [put]
  split
  next hsome =>
    rw [text?, Option.isSome_map, List.find?_isSome] at hsome
    obtain ⟨f, hf, hplace⟩ := hsome
    have hpred : ((·.1 == place) ∘ fun f : List String × String => if f.1 == place then (place, text) else f) =
        (·.1 == place) := by
      funext f
      by_cases hf : f.1 = place <;> simp [hf]
    rw [text?, List.find?_map, hpred]
    cases hfind : t.files.find? (·.1 == place) with
    | none => exact absurd hplace (List.find?_eq_none.mp hfind f hf)
    | some f =>
      have hfirst := List.find?_some hfind
      simp [beq_iff_eq.mp hfirst]
  next hnone =>
    rw [text?, Option.isSome_map, Option.not_isSome_iff_eq_none] at hnone
    rw [text?, List.find?_append, hnone]
    simp

theorem text?_put_of_ne (text : String) (hne : q ≠ place) : (t.put place text).text? q = t.text? q := by
  rw [put]
  split
  · have hpred : ((·.1 == q) ∘ fun f : List String × String => if f.1 == place then (place, text) else f) =
        (·.1 == q) := by
      funext f
      by_cases hf : f.1 = place <;> simp [hf]
    rw [text?, text?, List.find?_map, hpred, Option.map_map]
    cases hfind : t.files.find? (·.1 == q) with
    | none => rfl
    | some f =>
      have hfirst := List.find?_some hfind
      simp [beq_iff_eq.mp hfirst, hne]
  · rw [text?, text?, List.find?_append]
    simp [Ne.symm hne]

theorem isFile_put_of_ne (text : String) (hne : q ≠ place) : (t.put place text).isFile q = t.isFile q := by
  rw [isFile, isFile, text?_put_of_ne text hne]
  congr 1
  rw [put]
  split
  · rfl
  · simp [hne]

/-- The second tree has the same files as the first but for one place, and all of its folders. -/
structure SameBut (place : List String) (t u : FileTree) : Prop where
  text : ∀ q, q ≠ place → u.text? q = t.text? q
  file : ∀ q, q ≠ place → u.isFile q = t.isFile q
  folders : ∀ q, t.isFolder q = true → u.isFolder q = true

theorem SameBut.refl (place : List String) (t : FileTree) : t.SameBut place t :=
  ⟨fun _ _ => rfl, fun _ _ => rfl, fun _ h => h⟩

/-- Where steps could be followed to another place, there is the same as before. -/
theorem SameBut.along_eq (h : t.SameBut place u) {steps : List String} (hsteps : t.follow? [] steps = some q)
    (hne : placeOf? steps ≠ some place) :
    u.hasFileAlong steps = t.hasFileAlong steps ∧ u.textAlong? steps = t.textAlong? steps := by
  have hq : q ≠ place := by
    rintro rfl
    exact hne (placeFrom?_of_follow? hsteps)
  have hsteps' := follow?_of_folders h.folders hsteps
  rw [hasFileAlong, hasFileAlong, textAlong?, textAlong?, hsteps, hsteps']
  exact ⟨h.file q hq, h.text q hq⟩

/-! ### Writing -/

theorem steps_eq_concat {name : String} (h : (steps path).getLast? = some name) :
    (steps path).dropLast ++ [name] = steps path := by
  obtain ⟨front, hfront⟩ := List.getLast?_eq_some_iff.mp h
  rw [hfront, List.dropLast_concat]

/-- The room that is made for a file is at the place that its path names, and only folders are new. -/
theorem makeRoom_eq_some (h : t.makeRoom path = (u, some place)) :
    t.Widens u ∧ namesFolder path = false ∧ u.follow? [] (steps path) = some place := by
  rw [makeRoom] at h
  split at h
  · exact nomatch (Prod.mk.inj h).2
  next name hname =>
    have hwidens := t.widens_makeFolders [] (steps path).dropLast
    split at h
    · exact nomatch (Prod.mk.inj h).2
    next v folder hfolders =>
      rw [hfolders] at hwidens
      dsimp only at h
      split at h
      · exact nomatch (Prod.mk.inj h).2
      next hroom =>
        obtain ⟨rfl, hplace⟩ := Prod.mk.inj h
        obtain rfl := Option.some.inj hplace
        simp only [Bool.or_eq_true, not_or, Bool.not_eq_true] at hroom
        obtain ⟨⟨hname', hnames⟩, -⟩ := hroom
        obtain ⟨hfollow, hfolder⟩ := follow?_makeFolders t.open_nil hfolders
        refine ⟨hwidens, hnames, ?_⟩
        rw [← steps_eq_concat hname, follow?_append, hfollow, Option.bind_some, follow?, hfolder, hname']
        rfl

theorem store_eq_true (h : t.store path text = (u, true)) :
    ∃ place, placeOf? (steps path) = some place ∧ t.SameBut place u ∧ u.read? path = some text := by
  rw [store] at h
  split at h
  · exact nomatch (Prod.mk.inj h).2
  next v place hroom =>
    obtain ⟨rfl, -⟩ := Prod.mk.inj h
    obtain ⟨hwidens, hnames, hfollow⟩ := makeRoom_eq_some hroom
    have hfolders : ∀ q, v.isFolder q = true → (v.put place text).isFolder q = true := fun q hq => by
      rwa [isFolder_put]
    refine ⟨place, placeFrom?_of_follow? hfollow, ⟨?_, ?_, ?_⟩, ?_⟩
    · intro q hq
      rw [text?_put_of_ne text hq, hwidens.text?_eq]
    · intro q hq
      rw [isFile_put_of_ne text hq, hwidens.isFile_eq]
    · exact fun q hq => hfolders q (hwidens.folders q hq)
    · have hpath : path ≠ "" := by
        rintro rfl
        exact absurd hnames (by decide +kernel)
      rw [read?, hnames, textAlong?, follow?_of_folders hfolders hfollow, Option.bind_some, text?_put_self]
      simp [hpath]

/-- A write that is not refused leaves the text at the path, and everything else as it was. -/
theorem write_accepted {w : Written} (h : t.write path text = (u, w)) (hw : w ≠ .refused) :
    ∃ place, placeOf? (steps path) = some place ∧ t.SameBut place u ∧ u.read? path = some text := by
  rw [write] at h
  split at h
  next hread =>
    obtain ⟨rfl, -⟩ := Prod.mk.inj h
    have hread' : t.read? path = some text := beq_iff_eq.mp hread
    rw [read?, Option.ite_none_left_eq_some, textAlong?] at hread'
    obtain ⟨place, hplace, -⟩ := Option.bind_eq_some_iff.mp hread'.2
    exact ⟨place, placeFrom?_of_follow? hplace, .refl place t, beq_iff_eq.mp hread⟩
  · split at h
    next v hstore =>
      obtain ⟨rfl, -⟩ := Prod.mk.inj h
      exact store_eq_true hstore
    · exact absurd (Prod.mk.inj h).2.symm hw

end FileTree

end ServiceContainer
