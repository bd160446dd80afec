import Mathlib.Logic.Relation
import Mathlib.Tactic.ByContra

set_option autoImplicit false

namespace Waiting

open Relation

variable {Party : Type} {waits after : Party → Party → Prop} {party : Party}

/-- No chain of waits goes on for ever from this party. -/
def Ends (waits : Party → Party → Prop) (party : Party) : Prop :=
  Acc (fun later earlier => waits earlier later) party

theorem Ends.fewer (fewer : ∀ first second, after first second → waits first second)
    (ends : Ends waits party) : Ends after party := by
  induction ends with
  | intro party _ ih => exact ⟨party, fun later waiting => ih later (fewer party later waiting)⟩

/-- A wait that closes no circle leaves every chain an end. -/
theorem Ends.insert {new awaited : Party} (ends : ∀ party, Ends waits party)
    (open_chain : ¬ReflTransGen waits awaited new)
    (only : ∀ first second, after first second →
      waits first second ∨ first = new ∧ second = awaited) (party : Party) :
    Ends after party := by
  -- Where the new wait is not reached the chains are the old ones.
  have apart : Ends after awaited := by
    generalize awaited = party at open_chain
    have old := ends party
    induction old with
    | intro party _ ih =>
        refine ⟨party, fun later waiting => ?_⟩
        rcases only party later waiting with before | ⟨rfl, -⟩
        · exact ih later before fun chain => open_chain (.head before chain)
        · exact absurd .refl open_chain
  have old := ends party
  induction old with
  | intro party _ ih =>
      refine ⟨party, fun later waiting => ?_⟩
      rcases only party later waiting with before | ⟨-, rfl⟩
      · exact ih later before
      · exact apart

theorem Ends.last (ends : Ends waits party) :
    ∃ last, ReflTransGen waits party last ∧ ∀ other, ¬waits last other := by
  induction ends with
  | intro party _ ih =>
      by_cases waiting : ∃ later, waits party later
      · obtain ⟨later, waiting⟩ := waiting
        obtain ⟨last, chain, free⟩ := ih later waiting
        exact ⟨last, .head waiting chain, free⟩
      · exact ⟨party, .refl, fun other waits => waiting ⟨other, waits⟩⟩

end Waiting
