import Mathlib.Data.List.Basic
import Mathlib.Logic.Function.Basic

set_option autoImplicit false

/-!
# Taking turns

An array whose items know their places. Those before `active` take turns, from `current` on and
round to the first; to go in or out of turn an item is swapped with the one at the edge.
-/

structure Rota (Item : Type) where
  items : List Item := []
  place : Item → Nat := fun _ => 0
  active : Nat := 0
  current : Nat := 0

namespace Rota

variable {Item : Type} [DecidableEq Item]

def pushBack (r : Rota Item) (item : Item) : Rota Item :=
  { r with
    items := r.items ++ [item]
    place := Function.update r.place item r.items.length }

def swap (r : Rota Item) (i j : Nat) : Rota Item :=
  match r.items[i]?, r.items[j]? with
  | some first, some second =>
      { r with
        items := (r.items.set i second).set j first
        place := Function.update (Function.update r.place first j) second i }
  | _, _ => r

-- The last item takes the place of the one erased.
def erase (r : Rota Item) (item : Item) : Rota Item :=
  match r.items.getLast? with
  | none => r
  | some back =>
      { r with
        items := (r.items.set (r.place item) back).dropLast
        place := Function.update r.place back (r.place item) }

def enter (r : Rota Item) (item : Item) : Rota Item :=
  { r.swap (r.place item) r.active with active := r.active + 1 }

def leave (r : Rota Item) (i : Nat) : Rota Item :=
  { r.swap i (r.active - 1) with
    active := r.active - 1
    current := if r.current = r.active - 1 then 0 else r.current }

def remove (r : Rota Item) (item : Item) : Rota Item :=
  (if r.place item < r.active then r.leave (r.place item) else r).erase item

def advance (r : Rota Item) : Rota Item := { r with current := (r.current + 1) % r.active }

def upcoming (r : Rota Item) : Option Item := r.items[r.current]?

def InTurn (r : Rota Item) (item : Item) : Prop := item ∈ r.items ∧ r.place item < r.active

structure Sound (r : Rota Item) : Prop where
  placed : ∀ i item, r.items[i]? = some item → r.place item = i
  active : r.active ≤ r.items.length
  current : r.current < r.active ∨ r.current = 0

omit [DecidableEq Item] in
theorem sound_initial : Sound ({} : Rota Item) :=
  ⟨fun i item there => by simp at there, Nat.le_refl 0, .inr rfl⟩

omit [DecidableEq Item] in
theorem Sound.at_place {r : Rota Item} (sound : r.Sound) {item : Item} (member : item ∈ r.items) :
    r.items[r.place item]? = some item := by
  obtain ⟨i, there⟩ := List.mem_iff_getElem?.mp member
  rw [sound.placed i item there]
  exact there

omit [DecidableEq Item] in
theorem Sound.place_lt {r : Rota Item} (sound : r.Sound) {item : Item} (member : item ∈ r.items) :
    r.place item < r.items.length :=
  (List.getElem?_eq_some_iff.mp (sound.at_place member)).1

omit [DecidableEq Item] in
theorem Sound.upcoming_inTurn {r : Rota Item} (sound : r.Sound) (some_active : 0 < r.active) :
    ∃ item, r.upcoming = some item ∧ r.place item = r.current ∧ r.InTurn item := by
  have within : r.current < r.active := by
    rcases sound.current with within | first
    · exact within
    · omega
  have there := List.getElem?_eq_getElem (Nat.lt_of_lt_of_le within sound.active)
  have place := sound.placed _ _ there
  refine ⟨_, there, place, List.getElem_mem _, ?_⟩
  rw [place]
  exact within

structure Swapped (r after : Rota Item) (i j : Nat) (first second : Item) : Prop where
  items : ∀ k, after.items[k]? =
    if k = j then some first else if k = i then some second else r.items[k]?
  place : ∀ item, after.place item =
    if item = second then i else if item = first then j else r.place item
  length : after.items.length = r.items.length
  active : after.active = r.active
  current : after.current = r.current

theorem swap_spec {r : Rota Item} {i j : Nat} {first second : Item}
    (from_first : r.items[i]? = some first) (from_second : r.items[j]? = some second) :
    Swapped r (r.swap i j) i j first second := by
  have within_i := (List.getElem?_eq_some_iff.mp from_first).1
  have within_j := (List.getElem?_eq_some_iff.mp from_second).1
  unfold swap
  rw [from_first, from_second]
  refine ⟨fun k => ?_, fun item => ?_, by simp, rfl, rfl⟩
  · simp only [List.getElem?_set, List.length_set]
    by_cases at_j : k = j
    · subst at_j
      rw [if_pos rfl, if_pos within_j, if_pos rfl]
    · rw [if_neg (Ne.symm at_j), if_neg at_j]
      by_cases at_i : k = i
      · subst at_i
        rw [if_pos rfl, if_pos within_i, if_pos rfl]
      · rw [if_neg (Ne.symm at_i), if_neg at_i]
  · simp only [Function.update_apply]

-- A swap rearranges the items, each of which learns its new place.
theorem Swapped.placed {r after : Rota Item} {i j : Nat} {first second : Item}
    (swapped : Swapped r after i j first second) (sound : r.Sound)
    (from_first : r.items[i]? = some first) (from_second : r.items[j]? = some second) :
    ∀ k item, after.items[k]? = some item → after.place item = k := by
  intro k item there
  have place_first := sound.placed i first from_first
  have place_second := sound.placed j second from_second
  rw [swapped.items] at there
  rw [swapped.place]
  split at there
  next at_j =>
    cases there
    split
    next same =>
      rw [same] at place_first
      omega
    next =>
      rw [if_pos rfl]
      exact at_j.symm
  next elsewhere =>
    split at there
    next at_i =>
      cases there
      rw [if_pos rfl]
      exact at_i.symm
    next apart =>
      have place := sound.placed k item there
      rw [if_neg (fun same => elsewhere (by rw [← place, same, place_second])),
        if_neg (fun same => apart (by rw [← place, same, place_first]))]
      exact place

theorem Swapped.mem {r after : Rota Item} {i j : Nat} {first second : Item}
    (swapped : Swapped r after i j first second)
    (from_first : r.items[i]? = some first) (from_second : r.items[j]? = some second)
    (item : Item) : item ∈ after.items ↔ item ∈ r.items := by
  simp only [List.mem_iff_getElem?, swapped.items]
  constructor
  · rintro ⟨k, there⟩
    split at there
    next =>
      cases there
      exact ⟨i, from_first⟩
    next =>
      split at there
      next =>
        cases there
        exact ⟨j, from_second⟩
      next => exact ⟨k, there⟩
  · rintro ⟨k, there⟩
    by_cases at_i : k = i
    · refine ⟨j, ?_⟩
      rw [if_pos rfl, ← from_first, ← at_i, there]
    · by_cases at_j : k = j
      · by_cases same : i = j
        · exact absurd (at_j.trans same.symm) at_i
        · refine ⟨i, ?_⟩
          rw [if_neg same, if_pos rfl, ← from_second, ← at_j, there]
      · refine ⟨k, ?_⟩
        rw [if_neg at_j, if_neg at_i]
        exact there

/-- The item goes out of turn, whichever place it has among those in turn. -/
structure Left (r after : Rota Item) (gone : Item) : Prop where
  sound : after.Sound
  mem : ∀ item, item ∈ after.items ↔ item ∈ r.items
  length : after.items.length = r.items.length
  inTurn : ∀ item, after.InTurn item ↔ r.InTurn item ∧ item ≠ gone
  active : after.active = r.active - 1
  current : after.current = if r.current = r.active - 1 then 0 else r.current
  place : ∀ item, after.InTurn item → after.place item = r.place item ∨
    (r.place item = r.active - 1 ∧ after.place item = r.place gone)
  upcoming : r.place gone ≠ r.current → (r.current + 1 = r.active → r.place gone = 0) →
    after.upcoming = r.upcoming

theorem Sound.leave {r : Rota Item} (sound : r.Sound) {gone : Item} (active : r.InTurn gone) :
    Left r (r.leave (r.place gone)) gone := by
  obtain ⟨member, within⟩ := active
  have from_gone := sound.at_place member
  have short := sound.active
  have last_within : r.active - 1 < r.items.length := by omega
  have from_last := List.getElem?_eq_getElem last_within
  generalize r.items[r.active - 1] = last at from_last
  have place_last := sound.placed _ _ from_last
  have swapped := swap_spec from_gone from_last
  have place (item : Item) : (r.leave (r.place gone)).place item =
      if item = last then r.place gone else if item = gone then r.active - 1 else r.place item :=
    swapped.place item
  have mem (item : Item) : item ∈ (r.leave (r.place gone)).items ↔ item ∈ r.items :=
    swapped.mem from_gone from_last item
  have length : (r.leave (r.place gone)).items.length = r.items.length := swapped.length
  have at_place (other : Item) (there : other ∈ r.items) :
      other = last ↔ r.place other = r.active - 1 := by
    constructor
    · intro same
      rw [same, place_last]
    · intro same
      have from_other := sound.at_place there
      rw [same, from_last] at from_other
      exact (Option.some.inj from_other).symm
  have in_turn (item : Item) :
      (r.leave (r.place gone)).InTurn item ↔ r.InTurn item ∧ item ≠ gone := by
    simp only [InTurn, mem, place]
    constructor
    · rintro ⟨there, less⟩
      simp only [Rota.leave] at less
      split at less
      next same =>
        subst same
        refine ⟨⟨there, by omega⟩, fun same => ?_⟩
        rw [same] at place_last
        omega
      next =>
        split at less
        next => omega
        next other => exact ⟨⟨there, by omega⟩, other⟩
    · rintro ⟨⟨there, less⟩, other⟩
      refine ⟨there, ?_⟩
      simp only [Rota.leave]
      split
      next same =>
        subst same
        have apart : r.place gone ≠ r.active - 1 :=
          fun same => other ((at_place gone member).mpr same).symm
        omega
      next not_last =>
        have apart : r.place item ≠ r.active - 1 :=
          fun same => not_last ((at_place item there).mpr same)
        omega
  refine ⟨⟨?_, ?_, ?_⟩, mem, length, in_turn, rfl, rfl, fun item => ?_, ?_⟩
  · exact swapped.placed sound from_gone from_last
  · rw [length]
    simp only [Rota.leave]
    omega
  · simp only [Rota.leave]
    have before := sound.current
    split
    next => exact .inr rfl
    next => omega
  · intro active
    have other := (in_turn item).mp active |>.2
    rw [place, if_neg other]
    split
    next same => exact .inr ⟨same ▸ place_last, rfl⟩
    next => exact .inl rfl
  · intro apart first
    simp only [upcoming, Rota.leave]
    rw [swapped.items]
    have before := sound.current
    by_cases at_last : r.current = r.active - 1
    · have front := first (by omega)
      rw [if_pos at_last, at_last, from_last]
      split
      next only => omega
      next => rw [if_pos front.symm]
    · rw [if_neg at_last, if_neg at_last, if_neg (Ne.symm apart)]

/-- The item comes in turn, behind those that are. -/
structure Entered (r after : Rota Item) (item : Item) : Prop where
  sound : after.Sound
  mem : ∀ other, other ∈ after.items ↔ other ∈ r.items
  length : after.items.length = r.items.length
  inTurn : ∀ other, after.InTurn other ↔ r.InTurn other ∨ other = item
  current : after.current = r.current
  place : ∀ other, r.InTurn other → after.place other = r.place other
  upcoming : 0 < r.active → after.upcoming = r.upcoming

theorem Sound.enter {r : Rota Item} (sound : r.Sound) {item : Item} (member : item ∈ r.items)
    (passive : r.active ≤ r.place item) : Entered r (r.enter item) item := by
  have from_item := sound.at_place member
  have within := sound.place_lt member
  have edge_within : r.active < r.items.length := by omega
  have from_edge := List.getElem?_eq_getElem edge_within
  generalize r.items[r.active] = edge at from_edge
  have place_edge := sound.placed _ _ from_edge
  have swapped := swap_spec from_item from_edge
  have place (other : Item) : (r.enter item).place other =
      if other = edge then r.place item else if other = item then r.active else r.place other :=
    swapped.place other
  have mem (other : Item) : other ∈ (r.enter item).items ↔ other ∈ r.items :=
    swapped.mem from_item from_edge other
  have length : (r.enter item).items.length = r.items.length := swapped.length
  have kept (other : Item) (active : r.InTurn other) :
      (r.enter item).place other = r.place other := by
    obtain ⟨-, less⟩ := active
    rw [place, if_neg (fun same => by rw [same, place_edge] at less; omega),
      if_neg (fun same => by rw [same] at less; omega)]
  refine ⟨⟨?_, ?_, ?_⟩, mem, length, fun other => ?_, swapped.current, kept, fun some_active => ?_⟩
  · exact swapped.placed sound from_item from_edge
  · rw [length]
    simp only [Rota.enter]
    omega
  · have before := sound.current
    simp only [Rota.enter, swapped.current]
    omega
  · simp only [InTurn, mem]
    constructor
    · rintro ⟨there, less⟩
      by_cases own : other = item
      · exact .inr own
      refine .inl ⟨there, ?_⟩
      rw [place, if_neg own] at less
      simp only [Rota.enter] at less
      split at less
      next same =>
        have edge_item : r.place item = r.active := by omega
        rw [edge_item, from_edge] at from_item
        exact absurd (same.trans (Option.some.inj from_item)) own
      next not_edge =>
        have apart : r.place other ≠ r.active := by
          intro same
          have from_other := sound.at_place there
          rw [same, from_edge] at from_other
          exact not_edge (Option.some.inj from_other).symm
        omega
    · rintro (⟨there, less⟩ | rfl)
      · rw [kept other ⟨there, less⟩]
        exact ⟨there, Nat.lt_succ_of_lt less⟩
      · refine ⟨member, ?_⟩
        rw [place]
        simp only [Rota.enter]
        split
        next same =>
          rw [same, place_edge]
          exact Nat.lt_succ_self _
        next =>
          rw [if_pos trivial]
          exact Nat.lt_succ_self _
  · have before := sound.current
    simp only [Rota.upcoming, Rota.enter, swapped.current]
    rw [swapped.items, if_neg (by omega), if_neg (by omega)]

theorem Sound.pushBack {r : Rota Item} (sound : r.Sound) {item : Item} (new : item ∉ r.items) :
    (r.pushBack item).Sound ∧ (∀ other, (r.pushBack item).InTurn other ↔ r.InTurn other) ∧
      (∀ other, r.InTurn other → (r.pushBack item).place other = r.place other) := by
  have kept (other : Item) (there : other ∈ r.items) :
      (r.pushBack item).place other = r.place other := by
    simp only [Rota.pushBack, Function.update_apply]
    split
    next same =>
      rw [same] at there
      exact absurd there new
    next => rfl
  refine ⟨⟨fun k other there => ?_, ?_, sound.current⟩, fun other => ?_, ?_⟩
  · simp only [Rota.pushBack] at there
    by_cases old : k < r.items.length
    · rw [List.getElem?_append_left old] at there
      rw [kept other (List.mem_of_getElem? there)]
      exact sound.placed k other there
    · rw [List.getElem?_append_right (by omega), List.getElem?_singleton] at there
      split at there
      next =>
        cases there
        simp only [Rota.pushBack, Function.update_self]
        omega
      next => cases there
  · have short := sound.active
    simp only [Rota.pushBack, List.length_append, List.length_singleton]
    omega
  · constructor
    · rintro ⟨there, less⟩
      simp only [Rota.pushBack, List.mem_append, List.mem_singleton] at there
      rcases there with old | rfl
      · rw [kept other old] at less
        exact ⟨old, less⟩
      · have short := sound.active
        simp only [Rota.pushBack, Function.update_self] at less
        omega
    · rintro ⟨there, less⟩
      refine ⟨by simp [Rota.pushBack, there], ?_⟩
      rw [kept other there]
      exact less
  · rintro other ⟨there, -⟩
    exact kept other there

theorem Sound.attach {r : Rota Item} (sound : r.Sound) {item : Item} (new : item ∉ r.items) :
    let after := (r.pushBack item).enter item
    after.Sound ∧ (∀ other, other ∈ after.items ↔ other ∈ r.items ∨ other = item) ∧
      after.items.length = r.items.length + 1 ∧
      (∀ other, after.InTurn other ↔ r.InTurn other ∨ other = item) ∧
      after.current = r.current ∧
      (∀ other, r.InTurn other → after.place other = r.place other) ∧
      (0 < r.active → after.upcoming = r.upcoming) := by
  obtain ⟨pushed, in_turn, kept⟩ := sound.pushBack new
  have short := sound.active
  have member : item ∈ (r.pushBack item).items := by simp [Rota.pushBack]
  have entered := pushed.enter member (by simpa [Rota.pushBack] using short)
  refine ⟨entered.sound, fun other => ?_, ?_, fun other => ?_, entered.current, ?_, ?_⟩
  · rw [entered.mem]
    simp [Rota.pushBack]
  · rw [entered.length]
    simp [Rota.pushBack]
  · rw [entered.inTurn, in_turn]
  · intro other active
    rw [entered.place other ((in_turn other).mpr active), kept other active]
  · intro some_active
    rw [entered.upcoming some_active]
    have before := sound.current
    simp only [Rota.upcoming, Rota.pushBack]
    rw [List.getElem?_append_left (by omega)]

structure Removed (r after : Rota Item) (gone : Item) : Prop where
  sound : after.Sound
  mem : ∀ item, item ∈ after.items ↔ item ∈ r.items ∧ item ≠ gone
  inTurn : ∀ item, after.InTurn item ↔ r.InTurn item ∧ item ≠ gone

/-- What an erasure does, place by place and item by item; `back` is the last item. -/
structure Erased (r after : Rota Item) (gone back : Item) : Prop where
  items : ∀ k, after.items[k]? =
    if k < r.items.length - 1 then if k = r.place gone then some back else r.items[k]? else none
  place : ∀ item, after.place item = if item = back then r.place gone else r.place item
  length : after.items.length = r.items.length - 1
  active : after.active = r.active
  current : after.current = r.current

theorem erase_spec {r : Rota Item} {back : Item} (last : r.items[r.items.length - 1]? = some back)
    (gone : Item) : Erased r (r.erase gone) gone back := by
  have same_last : r.items.getLast? = some back := by
    rw [List.getLast?_eq_getElem?]
    exact last
  have erased : r.erase gone = { r with
      items := (r.items.set (r.place gone) back).dropLast
      place := Function.update r.place back (r.place gone) } := by
    simp only [Rota.erase, same_last]
  rw [erased]
  refine ⟨fun k => ?_, fun item => Function.update_apply _ _ _ _, by simp, rfl, rfl⟩
  simp only [List.getElem?_dropLast, List.length_set, List.getElem?_set]
  split
  next less =>
    by_cases here : k = r.place gone
    · subst here
      simp only [if_true]
      rw [if_pos (by omega)]
    · rw [if_neg (Ne.symm here), if_neg here]
  next => rfl

theorem Erased.mem {r after : Rota Item} {gone back : Item} (erased : Erased r after gone back)
    (sound : r.Sound) (member : gone ∈ r.items)
    (last : r.items[r.items.length - 1]? = some back) (item : Item) :
    item ∈ after.items ↔ item ∈ r.items ∧ item ≠ gone := by
  have within := sound.place_lt member
  have place_back := sound.placed _ _ last
  simp only [List.mem_iff_getElem?, erased.items]
  constructor
  · rintro ⟨k, there⟩
    split at there
    next less =>
      split at there
      next here =>
        cases there
        refine ⟨⟨_, last⟩, fun same => ?_⟩
        rw [same] at place_back
        omega
      next elsewhere =>
        refine ⟨⟨k, there⟩, fun same => elsewhere ?_⟩
        rw [← sound.placed k item there, same]
    next => cases there
  · rintro ⟨⟨k, there⟩, other⟩
    have apart : k ≠ r.place gone := by
      intro same
      rw [same, sound.at_place member] at there
      exact other (Option.some.inj there).symm
    by_cases at_back : k = r.items.length - 1
    · refine ⟨r.place gone, ?_⟩
      rw [if_pos (by omega), if_pos rfl, ← last, ← at_back, there]
    · have less := (List.getElem?_eq_some_iff.mp there).1
      refine ⟨k, ?_⟩
      rw [if_pos (by omega), if_neg apart]
      exact there

theorem Erased.placed {r after : Rota Item} {gone back : Item} (erased : Erased r after gone back)
    (sound : r.Sound) (last : r.items[r.items.length - 1]? = some back) :
    ∀ k item, after.items[k]? = some item → after.place item = k := by
  intro k item there
  rw [erased.items] at there
  rw [erased.place]
  split at there
  next less =>
    split at there
    next here =>
      cases there
      rw [if_pos rfl]
      exact here.symm
    next =>
      have place := sound.placed k item there
      have apart : item ≠ back := by
        rintro rfl
        have place_back := sound.placed _ _ last
        omega
      rw [if_neg apart]
      exact place
  next => cases there

theorem Sound.erase {r : Rota Item} (sound : r.Sound) {gone : Item} (member : gone ∈ r.items)
    (passive : r.active ≤ r.place gone) :
    Removed r (r.erase gone) gone ∧ (0 < r.active → (r.erase gone).upcoming = r.upcoming) := by
  have within := sound.place_lt member
  have last_within : r.items.length - 1 < r.items.length := by omega
  have last := List.getElem?_eq_getElem last_within
  generalize r.items[r.items.length - 1] = back at last
  have place_back := sound.placed _ _ last
  have erased := erase_spec last gone
  have mem := erased.mem sound member last
  refine ⟨⟨⟨erased.placed sound last, ?_, ?_⟩, mem, fun item => ?_⟩, fun some_active => ?_⟩
  · rw [erased.active, erased.length]
    omega
  · rw [erased.active, erased.current]
    exact sound.current
  · simp only [InTurn, mem, erased.place, erased.active]
    constructor
    · rintro ⟨⟨there, other⟩, less⟩
      split at less
      next => omega
      next => exact ⟨⟨there, less⟩, other⟩
    · rintro ⟨⟨there, less⟩, other⟩
      refine ⟨⟨there, other⟩, ?_⟩
      split
      next same =>
        rw [same, place_back] at less
        omega
      next => exact less
  · have before := sound.current
    simp only [Rota.upcoming, erased.current]
    rw [erased.items, if_pos (by omega), if_neg (by omega)]

theorem Sound.remove {r : Rota Item} (sound : r.Sound) {gone : Item} (member : gone ∈ r.items) :
    Removed r (r.remove gone) gone ∧
      (r.upcoming ≠ some gone → 0 < r.active →
        (r.InTurn gone → r.current + 1 = r.active → r.place gone = 0) →
        (r.remove gone).upcoming = r.upcoming) := by
  unfold Rota.remove
  split
  next within =>
    have left := sound.leave ⟨member, within⟩
    have passive : (r.leave (r.place gone)).active ≤ (r.leave (r.place gone)).place gone := by
      by_contra less
      have turn := (left.inTurn gone).mp ⟨(left.mem gone).mpr member, Nat.lt_of_not_le less⟩
      exact turn.2 rfl
    obtain ⟨erased, upcoming⟩ := left.sound.erase ((left.mem gone).mpr member) passive
    refine ⟨⟨erased.sound, fun item => ?_, fun item => ?_⟩, fun other some_active front => ?_⟩
    · rw [erased.mem, left.mem]
    · rw [erased.inTurn, left.inTurn, and_assoc, and_self]
    · have apart : r.place gone ≠ r.current := by
        intro same
        apply other
        rw [Rota.upcoming, ← same]
        exact sound.at_place member
      have before := sound.current
      rw [upcoming, left.upcoming apart (front ⟨member, within⟩)]
      rw [left.active]
      omega
  next outside =>
    obtain ⟨erased, upcoming⟩ := sound.erase member (Nat.le_of_not_lt outside)
    exact ⟨erased, fun _ some_active _ => upcoming some_active⟩

theorem swap_comm {r : Rota Item} (sound : r.Sound) (i j : Nat) : r.swap i j = r.swap j i := by
  by_cases same : i = j
  · rw [same]
  unfold swap
  cases from_first : r.items[i]? with
  | none => cases r.items[j]? <;> rfl
  | some first =>
      cases from_second : r.items[j]? with
      | none => rfl
      | some second =>
          have apart : second ≠ first := by
            intro equal
            rw [equal] at from_second
            exact same ((sound.placed i first from_first).symm.trans
              (sound.placed j first from_second))
          dsimp only
          rw [List.set_comm _ _ same, Function.update_comm apart]

theorem swap_self {r : Rota Item} (sound : r.Sound) (i : Nat) : r.swap i i = r := by
  unfold swap
  cases there : r.items[i]? with
  | none => rfl
  | some item =>
      have place := sound.placed i item there
      have same : r.items.set i item = r.items := by
        obtain ⟨within, value⟩ := List.getElem?_eq_some_iff.mp there
        rw [← value, List.set_getElem_self]
      dsimp only
      rw [same, same]
      simp only [Function.update_idem]
      rw [← place, Function.update_eq_self]

omit [DecidableEq Item] in
theorem Sound.advance {r : Rota Item} (sound : r.Sound) (some_active : 0 < r.active) :
    r.advance.Sound :=
  ⟨sound.placed, sound.active, .inl (Nat.mod_lt _ some_active)⟩

section Waiting

def ahead (r : Rota Item) (item : Item) : Nat :=
  if r.current ≤ r.place item then r.place item - r.current
  else r.items.length - r.current + r.place item

omit [DecidableEq Item] in
theorem Sound.ahead_lt {r : Rota Item} (sound : r.Sound) {item : Item} (active : r.InTurn item) :
    r.ahead item < r.items.length := by
  have within := sound.place_lt active.1
  have before := sound.current
  have short := sound.active
  unfold ahead
  split <;> omega

-- That another item goes out of turn brings nobody before this one.
omit [DecidableEq Item] in
theorem Left.ahead_le {r after : Rota Item} {gone item : Item} (left : Left r after gone)
    (sound : r.Sound) (first : r.place gone = r.current) (turn : r.InTurn gone)
    (active : after.InTurn item) : after.ahead item ≤ r.ahead item := by
  have within := turn.2
  obtain ⟨in_turn, other⟩ := (left.inTurn item).mp active
  have short := sound.active
  have item_within := in_turn.2
  have apart : r.place item ≠ r.place gone := by
    intro same
    have from_item := sound.at_place in_turn.1
    rw [same, sound.at_place turn.1] at from_item
    exact other (Option.some.inj from_item).symm
  unfold ahead
  rw [left.length, left.current]
  rcases left.place item active with same | ⟨last, moved⟩
  · rw [same]
    by_cases at_last : r.current = r.active - 1
    · rw [if_pos at_last, if_pos (Nat.zero_le _)]
      split <;> omega
    · exact Nat.le_of_eq (by rw [if_neg at_last])
  · have not_last : r.current ≠ r.active - 1 := by omega
    rw [moved, first, if_neg not_last, if_pos (Nat.le_refl _)]
    omega

omit [DecidableEq Item] in
theorem Entered.ahead_eq {r after : Rota Item} {new item : Item} (entered : Entered r after new)
    (active : r.InTurn item) : after.ahead item = r.ahead item := by
  unfold ahead
  rw [entered.length, entered.current, entered.place item active]

omit [DecidableEq Item] in
theorem Sound.advance_ahead {r : Rota Item} (sound : r.Sound) {item : Item}
    (active : r.InTurn item) (other : r.upcoming ≠ some item) :
    r.advance.ahead item + 1 ≤ r.ahead item := by
  have apart : r.place item ≠ r.current := by
    intro same
    apply other
    rw [upcoming, ← same]
    exact sound.at_place active.1
  have in_turn := active.2
  have short := sound.active
  have before := sound.current
  have next : r.advance.current = (r.current + 1) % r.active := rfl
  have place : r.advance.place item = r.place item := rfl
  have length : r.advance.items.length = r.items.length := rfl
  unfold ahead
  rw [next, place, length]
  by_cases last : r.current + 1 = r.active
  · rw [last, Nat.mod_self, if_pos (Nat.zero_le _)]
    split <;> omega
  · rw [Nat.mod_eq_of_lt (by omega)]
    split <;> split <;> omega

end Waiting

end Rota
