/-
ControlPlane/Interaction/Footprint.lean

What a program leaves behind: of the calls it makes, those of one kind, in order.

`p.LeavesEvents sel R` says that a run of `p` that returns `a` has made, of the calls
`sel` selects, a list in `R a`, with the replies it got.  The rules are read forwards: a
part is replaced by what it leaves, and the rest is asked for what it adds
(`LeavesEvents.bind`), so that the footprint of a long program is computed from those of
its parts.  `p.Leaves sel R` is the same of the calls alone.
-/
import ControlPlane.Interaction.Prog

namespace Interaction

namespace Prog

variable {I : Interface} {ε α β : Type} {sel : I.Call → Bool}

/-- The events of a trace whose calls `sel` selects, in order. -/
def marked (sel : I.Call → Bool) (t : List (Event I)) : List (Event I) :=
  t.filter fun e => sel e.call

/-- The calls of a trace that `sel` selects, in order. -/
def selected (sel : I.Call → Bool) (t : List (Event I)) : List I.Call :=
  (t.map Event.call).filter sel

/-- The marked events of two traces. -/
theorem marked_append {t t' : List (Event I)} :
    marked sel (t ++ t') = marked sel t ++ marked sel t' :=
  List.filter_append ..

/-- A trace without marked events. -/
theorem marked_eq_nil {t : List (Event I)} (h : ∀ e ∈ t, sel e.call = false) :
    marked sel t = [] := by
  rw [marked, List.filter_eq_nil_iff]
  intro e he
  simp [h e he]

theorem selected_eq_map {t : List (Event I)} :
    selected sel t = (marked sel t).map Event.call := by
  rw [selected, marked, List.filter_map]
  rfl

/-- A run of `p` that returns `a` has made selected calls, with replies, in `R a`. -/
def LeavesEvents (sel : I.Call → Bool) (p : Prog I ε α) (R : α → List (Event I) → Prop) : Prop :=
  ∀ t a, p.Exec t (.returned a) → R a (marked sel t)

/-- A run of `p` that returns `a` has made selected calls in `R a`. -/
def Leaves (sel : I.Call → Bool) (p : Prog I ε α) (R : α → List I.Call → Prop) : Prop :=
  ∀ t a, p.Exec t (.returned a) → R a (selected sel t)

section Events

variable {p : Prog I ε α} {f : α → Prog I ε β} {R R' : α → List (Event I) → Prop}
  {S : β → List (Event I) → Prop}

theorem LeavesEvents.mono (h : p.LeavesEvents sel R) (hR : ∀ a es, R a es → R' a es) :
    p.LeavesEvents sel R' :=
  fun t a hx => hR a _ (h t a hx)

theorem leavesEvents_pure {a : α} (h : R a []) : (pure a : Prog I ε α).LeavesEvents sel R := by
  rintro t a' ⟨rfl, ⟨⟩⟩
  exact h

theorem leavesEvents_throw {e : ε} : (throw e : Prog I ε α).LeavesEvents sel R := by
  rintro t a ⟨-, ⟨⟩⟩

/-- **Sequencing**: what the rest leaves comes after what the first part left. -/
theorem LeavesEvents.bind (hp : p.LeavesEvents sel R)
    (hf : ∀ a es, R a es → (f a).LeavesEvents sel fun b es' => S b (es ++ es')) :
    (p >>= f).LeavesEvents sel S := by
  intro t b hx
  obtain ⟨a, t₁, t₂, rfl, h₁, h₂⟩ := exec_bind_returned.mp hx
  rw [marked_append]
  exact hf a _ (hp t₁ a h₁) t₂ b h₂

/-- A pure computation, then the rest. -/
theorem leavesEvents_ofExcept_bind {x : Except ε α}
    (h : ∀ a, x = .ok a → (f a).LeavesEvents sel S) : (ofExcept x >>= f).LeavesEvents sel S := by
  cases x with
  | ok a => exact h a rfl
  | error e => exact leavesEvents_throw

/-- A part that makes no selected call, then the rest. -/
theorem Only.leavesEvents_bind (hp : p.Only fun c => sel c = false)
    (hf : ∀ a, (f a).LeavesEvents sel S) : (p >>= f).LeavesEvents sel S := by
  have hnone : p.LeavesEvents sel fun _ es => es = [] := fun _ _ hx => marked_eq_nil (hp.exec hx)
  refine hnone.bind ?_
  rintro a es rfl
  exact hf a

/-- A selected call, then the rest, which knows the reply. -/
theorem leavesEvents_ask_bind {c : I.Call} {g : I.Reply c → Except ε α} (hc : sel c = true)
    (hf : ∀ r a, g r = .ok a → (f a).LeavesEvents sel fun b es => S b (⟨c, r⟩ :: es)) :
    (ask c g >>= f).LeavesEvents sel S := by
  have hleft : (ask c g).LeavesEvents sel fun a es => ∃ r, g r = .ok a ∧ es = [⟨c, r⟩] := by
    intro t a hx
    obtain ⟨r, rfl, ⟨a', hg, ⟨⟩⟩ | ⟨e, -, ⟨⟩⟩⟩ := exec_ask.mp hx
    exact ⟨r, hg, by simp [marked, hc]⟩
  refine hleft.bind ?_
  rintro a es ⟨r, hg, rfl⟩
  exact hf r a hg

end Events

/-- Calls are left as the events with them are. -/
theorem leaves_iff_events {p : Prog I ε α} {R : α → List I.Call → Prop} :
    p.Leaves sel R ↔ p.LeavesEvents sel fun a es => R a (es.map Event.call) := by
  simp only [Leaves, LeavesEvents, selected_eq_map]

section Rules

variable {p : Prog I ε α} {f : α → Prog I ε β} {R R' : α → List I.Call → Prop}
  {S : β → List I.Call → Prop}

/-- More may be left. -/
theorem Leaves.mono (h : p.Leaves sel R) (hR : ∀ a cs, R a cs → R' a cs) : p.Leaves sel R' :=
  fun t a hx => hR a _ (h t a hx)

theorem leaves_pure {a : α} (h : R a []) : (pure a : Prog I ε α).Leaves sel R :=
  leaves_iff_events.mpr (leavesEvents_pure h)

theorem leaves_throw {e : ε} : (throw e : Prog I ε α).Leaves sel R :=
  leaves_iff_events.mpr leavesEvents_throw

theorem leaves_ofExcept {x : Except ε α} (h : ∀ a, x = .ok a → R a []) :
    (ofExcept x : Prog I ε α).Leaves sel R := by
  cases x with
  | ok a => exact leaves_pure (h a rfl)
  | error e => exact leaves_throw

/-- What two programs leave one after the other. -/
theorem Leaves.bind (hp : p.Leaves sel R)
    (hf : ∀ a cs, R a cs → (f a).Leaves sel fun b cs' => S b (cs ++ cs')) :
    (p >>= f).Leaves sel S := by
  refine leaves_iff_events.mpr ((leaves_iff_events.mp hp).bind fun a es hR => ?_)
  simp only [List.map_append]
  exact leaves_iff_events.mp (hf a _ hR)

/-- A pure computation, then the rest. -/
theorem leaves_ofExcept_bind {x : Except ε α} (h : ∀ a, x = .ok a → (f a).Leaves sel S) :
    (ofExcept x >>= f).Leaves sel S :=
  leaves_iff_events.mpr (leavesEvents_ofExcept_bind fun a ha => leaves_iff_events.mp (h a ha))

/-- A part that makes no selected call. -/
theorem Only.leaves (hp : p.Only fun c => sel c = false) :
    p.Leaves sel fun _ cs => cs = [] := by
  intro t a hx
  rw [selected_eq_map, marked_eq_nil (hp.exec hx)]
  rfl

/-- A part that makes no selected call, then the rest. -/
theorem Only.leaves_bind (hp : p.Only fun c => sel c = false)
    (hf : ∀ a, (f a).Leaves sel S) : (p >>= f).Leaves sel S :=
  leaves_iff_events.mpr (hp.leavesEvents_bind fun a => leaves_iff_events.mp (hf a))

/-- A selected call, then the rest. -/
theorem leaves_ask_bind {c : I.Call} {g : I.Reply c → Except ε α} (hc : sel c = true)
    (hf : ∀ a, (f a).Leaves sel fun b cs => S b (c :: cs)) : (ask c g >>= f).Leaves sel S :=
  leaves_iff_events.mpr (leavesEvents_ask_bind hc fun _ a _ => leaves_iff_events.mp (hf a))

/-- A selected call. -/
theorem leaves_ask {c : I.Call} {g : I.Reply c → Except ε α} (hc : sel c = true)
    (h : ∀ r a, g r = .ok a → R a [c]) : (ask c g).Leaves sel R := by
  intro t a hx
  obtain ⟨r, rfl, ⟨a', hg, ⟨⟩⟩ | ⟨e, -, ⟨⟩⟩⟩ := exec_ask.mp hx
  have hselected : selected sel [(⟨c, r⟩ : Event I)] = [c] := by simp [selected, hc]
  rw [hselected]
  exact h r a hg

end Rules

end Prog

end Interaction
