import ServiceContainer.Proofs.Filling
import ServiceContainer.Proofs.Verdict

/-!
# Requests in runs

The two ways to make a request differ only in what they make of an answer without an instance. Every request ends; it
fills the cells of what it comes to, and its verdict is the one of the registrations. A world in which this goes on
after every step is furnished: sound, wired and stocked at once.

The code of services asks for the same types on every making, whatever the answers are; this is the assumption behind
`Assembly.requests`.

## Main definitions

* `Step.Asks` — the requests among the steps
* `World.Furnished` — the invariant
* `World.Serves`, `World.Hands` — what a request does, and what is known of the instance that it found

## Main statements

* `Stage.perform_require_eq` — a request that must find something, by one that need not
* `Handle.Settled.serves_get` — a request ends, and how
* `Stage.furnished_run` — the invariant holds after every run
-/

namespace ServiceContainer

/-! ### The two ways to ask -/

/-- The step asks the handle of a name for a type. -/
inductive Step.Asks (source type : String) : Step → Prop where
  | get : Asks source type (.get source type)
  | require : Asks source type (.require source type)

/-- An answer to a request that must find something. -/
def demand (type : String) : Option Nat → Except DependencyError (Option Nat)
  | some id => .ok (some id)
  | none => .error (.notRegistered type)

/-- What comes of a request that must find something, by what comes of one that need not. -/
def Outcome.demanded (type : String) : Outcome → Outcome
  | .absent => .refused (.notRegistered type)
  | o => o

section

variable {t : Step} {source type : String} {s : Stage} {h : Handle} {w : World}

theorem Step.Asks.unique {source' type' : String} (h : t.Asks source type) (h' : t.Asks source' type') :
    source' = source ∧ type' = type := by
  cases h <;> cases h' <;> exact ⟨rfl, rfl⟩

theorem Step.isRequest_iff : t.IsRequest ↔ ∃ source type, t.Asks source type := by
  constructor
  · intro ht
    cases t with
    | get source type => exact ⟨source, type, .get⟩
    | require source type => exact ⟨source, type, .require⟩
    | _ => exact ht.elim
  · rintro ⟨source, type, _ | _⟩ <;> exact trivial

theorem Step.IsRequest.operates (ht : t.IsRequest) (admitted : Assembly → Prop) : t.Operates admitted := by
  cases t <;> first | exact trivial | exact ht.elim

theorem Handle.run_require (h : Handle) (type : String) (w : World) : (some <$> h.require type).run w =
    ((h.get type).run w).map fun x => (x.1.bind (demand type), x.2) := by
  rw [map_eq_pure_bind, Attempt.run_bind, Handle.require, Asker.require, Attempt.run_bind, Handle.get]
  rcases (Asker.get Handle.lookup h type).run w with _ | ⟨_ | _ | _, _⟩ <;> rfl

namespace Stage

theorem outcomeOf_demanded (r : Except DependencyError (Option Nat)) :
    outcomeOf (r.bind (demand type)) = (outcomeOf r).demanded type := by
  rcases r with _ | _ | _ <;> rfl

/-- A request that must find something does the same as one that need not, and is refused where that finds nothing. -/
theorem perform_require_eq (s : Stage) (source type : String) : s.perform (.require source type) =
    ((s.perform (.get source type)).1, (s.perform (.get source type)).2.demanded type) := by
  cases hh : s.handle? source with
  | none =>
    rw [perform, perform, onHandle, onHandle, hh]
    rfl
  | some h =>
    rw [perform_require hh, perform_get hh, request, request, Handle.run_require]
    cases hrun : (h.get type).run s.world with
    | none => rfl
    | some x => exact Prod.ext rfl (outcomeOf_demanded x.1)

theorem perform_eq_of_asks (ht : t.Asks source type) : (s.perform t).1 = (s.perform (.get source type)).1 := by
  cases ht with
  | get => rfl
  | require => rw [perform_require_eq]

theorem perform_of_handle?_eq_none (hnone : s.handle? source = none) (ht : t.Asks source type) :
    s.perform t = (s, .bad) := by
  cases ht <;> rw [perform, onHandle, hnone]

end Stage

end

/-! ### Furnished worlds -/

namespace World

/-- All that is known of the instances and the cells of a run. -/
structure Furnished (reg : Assembly → List Registration) (home : Nat → Option Keeper) (w : World) : Prop where
  sound : w.Sound home w.receipts
  wired : w.Wired home
  stocked : w.Stocked reg home

/-- What a request to a handle does: its cells are filled, and nothing else happens. -/
structure Serves (reg : Assembly → List Registration) (home : Nat → Option Keeper) (h : Handle) (type : String)
    (w w' : World) : Prop where
  grows : w.Grows w' (h.Reaches type)
  fills : w.FillsUp w' (h.Fills reg type)
  furnished : w'.Furnished reg home

/-- The handle hands an instance out for the type: the one in the cell of the service that answers, or a new one for it
if it has no cell. -/
structure Hands (w : World) (h : Handle) (type : String) (id : Nat) : Prop where
  has : w.Has h type id
  kept : ∀ n cell, (Receipt.mk h type id).place? = some (n, cell) → w.cell? n cell = some id

variable {reg : Assembly → List Registration} {home home' : Nat → Option Keeper} {w w' : World}

theorem Hands.mono {g : Handle} {type : String} {id : Nat} (hid : w.Hands g type id)
    (h : w.Persists w') : w'.Hands g type id :=
  ⟨hid.has.mono h.instances, fun n cell hplace => h.kept n cell id (hid.kept n cell hplace)⟩

namespace Furnished

theorem congr (hw : w.Furnished reg home) (hkeeps : w.Keeps w') : w'.Furnished reg home where
  sound := by
    rw [receipts, hkeeps.instances]
    exact hw.sound.congr hkeeps.instances hkeeps.cells
  wired := hw.wired.congr hkeeps.instances hkeeps.cells
  stocked := hw.stocked.congr hkeeps.instances hkeeps.cells

theorem mono (hw : w.Furnished reg home) (hhome : ∀ n k, home n = some k → home' n = some k) :
    w.Furnished reg home' :=
  ⟨hw.sound.mono hhome, hw.wired.mono hhome, hw.stocked.mono hhome⟩

end Furnished

theorem furnished_empty : ({} : World).Furnished reg Census.empty.home where
  sound := by simpa using Stage.valid_empty.sound
  wired := Stage.wired_empty
  stocked := by constructor <;> simp [Filled, cell?]

end World

section

variable {reg : Assembly → List Registration} {home : Nat → Option Keeper} {w : World} {h : Handle}
variable (hlaid : ∀ n k, home n = some k → k.assembly.LaidOut (reg k.assembly))

include hlaid in
/-- A request ends, and what comes of it is what the registrations say. -/
theorem Handle.Settled.serves_get (hh : h.Settled home) (hw : w.Furnished reg home) (type : String) : ∃ r w',
    (h.get type).run w = some (r, w') ∧ w.Serves reg home h type w' ∧ h.Verdict reg type (Stage.outcomeOf r) ∧
      ∀ id, Stage.outcomeOf r = .found id → w'.Hands h type id := by
  obtain ⟨⟨r, w'⟩, hrun⟩ := Option.ne_none_iff_exists'.mp (hh.halts_get type w)
  have hreceipts : w.Sound home ([] ++ w.receipts) := hw.sound
  obtain ⟨hgrows, hsound⟩ := get_ensures type hh hreceipts r w' hrun
  obtain ⟨hleads, hends⟩ := hh.wired_get hlaid hw.wired type r w' hrun
  obtain ⟨hstocked, hfills⟩ := hh.stocked_get hlaid hw.wired hw.stocked type r w' hrun
  have hfurnished : w'.Furnished reg home :=
    ⟨hsound.sublist (List.sublist_append_right _ _), hleads.wired, hstocked⟩
  refine ⟨r, w', hrun, ⟨hgrows, hfills, hfurnished⟩, hh.verdict hlaid hleads.wired hends, fun id hid => ?_⟩
  obtain _ | _ | other := r
  · exact nomatch hid
  · exact nomatch hid
  · -- The answer has a receipt, and is therefore in its cell if it has one.
    obtain rfl : other = id := Outcome.found.inj hid
    exact ⟨hends, fun n cell hplace => hsound.kept _ List.mem_cons_self n cell hplace⟩

end

/-! ### Steps and runs -/

namespace Stage

variable {reg : Assembly → List Registration} {c : Census} {home : Nat → Option Keeper} {s : Stage}
variable {held : List Receipt} {t : Step} {source type : String} {h : Handle}

section

variable (hlaid : ∀ n k, home n = some k → k.assembly.LaidOut (reg k.assembly))

include hlaid in
/-- A request to a handle changes the world as requests do, and comes to what the registrations say. -/
theorem serves_of_handle? (hh : s.handle? source = some h) (hsettled : h.Settled home)
    (hw : s.world.Furnished reg home) (ht : t.Asks source type) : ∃ w', (s.perform t).1 = { s with world := w' } ∧
      s.world.Serves reg home h type w' ∧ h.Verdict reg type (s.perform (.get source type)).2 ∧
      ∀ id, (s.perform (.get source type)).2 = .found id → w'.Hands h type id := by
  obtain ⟨r, w', hrun, hserves, hverdict, hhands⟩ := hsettled.serves_get hlaid hw type
  have hget : s.perform (.get source type) = ({ s with world := w' }, outcomeOf r) := by
    rw [perform_get hh, request, hrun]
  rw [perform_eq_of_asks ht, hget]
  exact ⟨w', rfl, hserves, hverdict, hhands⟩

end

theorem orderly_of_laidOut (a : Assembly) (ha : a.LaidOut (reg a) ∧ a.Acyclic) : a.Orderly := ⟨⟨_, ha.1⟩, ha.2⟩

theorem Valid.settled (hs : s.Valid c held) (hh : s.handle? source = some h) : h.Settled c.home :=
  (hs.regular _ (handle?_eq_some hh)).settled

/-- A step keeps the world furnished. -/
theorem perform_furnished (hs : ∀ source h, s.handle? source = some h → h.Settled home)
    (hw : s.world.Furnished reg home) (hlaid : ∀ n k, home n = some k → k.assembly.LaidOut (reg k.assembly))
    (t : Step) : (s.perform t).1.world.Furnished reg home ∧ s.world.Persists (s.perform t).1.world := by
  by_cases ht : t.IsRequest
  · obtain ⟨source, type, ht⟩ := Step.isRequest_iff.mp ht
    cases hh : s.handle? source with
    | none =>
      rw [perform_of_handle?_eq_none hh ht]
      exact ⟨hw, .refl _⟩
    | some h =>
      obtain ⟨w', hstage, hserves, -⟩ := serves_of_handle? hlaid hh (hs _ _ hh) hw ht
      rw [hstage]
      exact ⟨hserves.furnished, hserves.grows.persists⟩
  · have hkeeps := perform_keeps (s := s) ht
    exact ⟨hw.congr hkeeps, hkeeps.persists⟩

theorem Valid.perform_furnished (hs : s.Valid c held) (hw : s.world.Furnished reg c.home)
    (hlaid : ∀ n k, c.home n = some k → k.assembly.LaidOut (reg k.assembly)) (t : Step) :
    (s.perform t).1.world.Furnished reg c.home :=
  (Stage.perform_furnished (fun _ _ => hs.settled) hw hlaid t).1

/-- A run ends on a valid stage with a furnished world. -/
theorem Valid.furnished_run (hs : s.Valid c held) (hw : s.world.Furnished reg c.home)
    (hc : c.Admits fun a => a.LaidOut (reg a) ∧ a.Acyclic) {steps : List Step}
    (hsteps : ∀ t ∈ steps, t.Operates fun a => a.LaidOut (reg a) ∧ a.Acyclic) :
    ∃ c' held', c.Extends c' ∧ c'.Admits (fun a => a.LaidOut (reg a) ∧ a.Acyclic) ∧ (s.run steps).Valid c' held' ∧
      (s.run steps).world.Furnished reg c'.home := by
  induction steps generalizing c s held with
  | nil => exact ⟨c, held, .refl c, hc, hs, hw⟩
  | cons t rest ih =>
    have ht := hsteps t List.mem_cons_self
    obtain ⟨c₁, E, L, hstep⟩ := hs.perform (ht.mono orderly_of_laidOut)
    have hfurnished := (hs.perform_furnished hw (fun n k hk => (hc n k hk).1) t).mono hstep.extension.home
    obtain ⟨c₂, held₂, hext, hadmits, hvalid, hw₂⟩ := ih hstep.valid hfurnished (hstep.admits _ ht hc) fun u hu =>
      hsteps u (List.mem_cons_of_mem t hu)
    exact ⟨c₂, held₂, hstep.extension.trans hext, hadmits, hvalid, hw₂⟩

/-- What holds after a run from nothing. -/
theorem furnished_run {steps : List Step} (hsteps : ∀ t ∈ steps, t.Operates fun a => a.LaidOut (reg a) ∧ a.Acyclic) :
    ∃ c : Census, ∃ held, c.Admits (fun a => a.LaidOut (reg a) ∧ a.Acyclic) ∧ (({} : Stage).run steps).Valid c held ∧
      (({} : Stage).run steps).world.Furnished reg c.home := by
  obtain ⟨c, held, -, hrun⟩ := valid_empty.furnished_run World.furnished_empty (fun _ _ h => nomatch h) hsteps
  exact ⟨c, held, hrun⟩

end Stage

end ServiceContainer
