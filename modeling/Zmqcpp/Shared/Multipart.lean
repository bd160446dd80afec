import Mathlib.Tactic

set_option autoImplicit false

namespace Multipart

structure Message (Frame : Type) where
  first : Frame
  others : List Frame
  deriving DecidableEq, Repr

/-- `rest` is what is left of a message read in part, `waiting` the messages behind it. -/
structure Inbox (Frame : Type) where
  rest : List Frame := []
  waiting : List (Message Frame) := []
  deriving DecidableEq, Repr

/-- `frames` is the message that has begun, `sent` the messages that are complete. -/
structure Outbox (Frame : Type) where
  frames : List Frame := []
  sent : List (List Frame) := []
  deriving DecidableEq, Repr

variable {Frame : Type}

def Message.frames (message : Message Frame) : List Frame := message.first :: message.others

@[simp]
theorem Message.frames_ne_nil (message : Message Frame) : message.frames ≠ [] :=
  List.cons_ne_nil message.first message.others

namespace Inbox

def arrive (inbox : Inbox Frame) (message : Message Frame) : Inbox Frame :=
  { inbox with waiting := inbox.waiting ++ [message] }

def current : Inbox Frame → List Frame
  | { rest := [], waiting := [] } => []
  | { rest := [], waiting := message :: _ } => message.frames
  | { rest := first :: others, .. } => first :: others

/-- A read takes up to `limit` frames, and only of the current message. -/
def read (limit : Nat) : Inbox Frame → Option (List Frame × Inbox Frame)
  | { rest := [], waiting := [] } => none
  | { rest := [], waiting := message :: waiting } =>
      some (message.frames.take limit, { rest := message.frames.drop limit, waiting })
  | { rest := first :: others, waiting } =>
      some ((first :: others).take limit, { rest := (first :: others).drop limit, waiting })

theorem read_cases {inbox after : Inbox Frame} {limit : Nat} {chunk : List Frame}
    (taken : inbox.read limit = some (chunk, after)) :
    (inbox.rest = [] ∧ ∃ message, inbox.waiting = message :: after.waiting ∧
      chunk = message.frames.take limit ∧ after.rest = message.frames.drop limit) ∨
    (inbox.rest ≠ [] ∧ inbox.waiting = after.waiting ∧ chunk = inbox.rest.take limit ∧
      after.rest = inbox.rest.drop limit) := by
  obtain ⟨rest, waiting⟩ := inbox
  cases rest with
  | nil =>
      cases waiting with
      | nil => cases taken
      | cons message waiting =>
          cases taken
          exact .inl ⟨rfl, message, rfl, rfl, rfl⟩
  | cons first others =>
      cases taken
      exact .inr ⟨by simp, rfl, rfl, rfl⟩

theorem current_of_begun {inbox : Inbox Frame} (begun : inbox.rest ≠ []) :
    inbox.current = inbox.rest := by
  obtain ⟨rest, waiting⟩ := inbox
  cases rest with
  | nil => exact absurd rfl begun
  | cons first others => rfl

theorem current_of_head {inbox : Inbox Frame} {message : Message Frame}
    (none_begun : inbox.rest = []) (head : inbox.waiting.head? = some message) :
    inbox.current = message.frames := by
  obtain ⟨rest, waiting⟩ := inbox
  subst none_begun
  cases waiting with
  | nil => cases head
  | cons first others =>
      cases head
      rfl

theorem read_chunk {inbox after : Inbox Frame} {limit : Nat} {chunk : List Frame}
    (taken : inbox.read limit = some (chunk, after)) : chunk = inbox.current.take limit := by
  rcases read_cases taken with ⟨none_begun, message, waiting, same, -⟩ | ⟨begun, -, same, -⟩
  · rw [same, current_of_head none_begun (by rw [waiting]; rfl)]
  · rw [same, current_of_begun begun]

theorem read_none {inbox : Inbox Frame} {limit : Nat} (empty : inbox.read limit = none) :
    inbox = {} := by
  obtain ⟨rest, waiting⟩ := inbox
  cases rest with
  | nil =>
      cases waiting with
      | nil => rfl
      | cons message waiting => cases empty
  | cons first others => cases empty

theorem read_ne_nil {inbox after : Inbox Frame} {limit : Nat} {chunk : List Frame}
    (positive : 0 < limit) (taken : inbox.read limit = some (chunk, after)) : chunk ≠ [] := by
  rcases read_cases taken with ⟨-, message, -, rfl, -⟩ | ⟨begun, -, rfl, -⟩
  · simp [List.take_eq_nil_iff, positive.ne']
  · simp [List.take_eq_nil_iff, positive.ne', begun]

/-- The messages given out are some of those taken from the inbox, whole and in their order. -/
def Gives (inbox : Inbox Frame) (arrived : List (Message Frame)) (given : List (List Frame)) :
    Prop :=
  ∃ taken, arrived = taken ++ inbox.waiting ∧ given.Sublist (taken.map Message.frames)

section Gives

variable {inbox after : Inbox Frame} {arrived : List (Message Frame)} {given : List (List Frame)}
  {limit : Nat} {chunk : List Frame}

theorem Gives.arrive (gives : inbox.Gives arrived given) (message : Message Frame) :
    (inbox.arrive message).Gives (arrived ++ [message]) given := by
  obtain ⟨taken, same, sublist⟩ := gives
  exact ⟨taken, by simp [Inbox.arrive, same], sublist⟩

theorem Gives.keep (gives : inbox.Gives arrived given) (read : inbox.read limit = some (chunk, after)) :
    after.Gives arrived given := by
  obtain ⟨taken, same, sublist⟩ := gives
  rcases read_cases read with ⟨-, message, waiting, -⟩ | ⟨-, waiting, -⟩
  · refine ⟨taken ++ [message], by simp [same, waiting], ?_⟩
    rw [List.map_append]
    exact sublist.trans (List.sublist_append_left _ _)
  · exact ⟨taken, by rw [same, waiting], sublist⟩

theorem Gives.give (gives : inbox.Gives arrived given) (read : inbox.read limit = some (chunk, after))
    {message : Message Frame} (none_begun : inbox.rest = [])
    (head : inbox.waiting.head? = some message) :
    after.Gives arrived (given ++ [message.frames]) := by
  obtain ⟨taken, same, sublist⟩ := gives
  rcases read_cases read with ⟨-, first, waiting, -⟩ | ⟨begun, -⟩
  · rw [waiting] at head
    cases head
    refine ⟨taken ++ [message], by simp [same, waiting], ?_⟩
    rw [List.map_append]
    exact sublist.append (List.Sublist.refl _)
  · exact absurd none_begun begun

-- A read after which nothing is given on, or the message that it has read.
theorem Gives.keep_or_give (gives : inbox.Gives arrived given)
    (read : inbox.read limit = some (chunk, after)) {later : List (List Frame)}
    (account : later = given ∨ inbox.rest = [] ∧ ∃ message,
      inbox.waiting.head? = some message ∧ later = given ++ [message.frames]) :
    after.Gives arrived later := by
  rcases account with unchanged | ⟨none_begun, message, head, grown⟩
  · rw [unchanged]
    exact gives.keep read
  · rw [grown]
    exact gives.give read none_begun head

theorem Gives.sublist (gives : inbox.Gives arrived given) :
    given.Sublist (arrived.map Message.frames) := by
  obtain ⟨taken, same, sublist⟩ := gives
  rw [same, List.map_append]
  exact sublist.trans (List.sublist_append_left _ _)

end Gives

end Inbox

namespace Outbox

def put (outbox : Outbox Frame) (frame : Frame) (more : Bool) : Outbox Frame :=
  if more then { outbox with frames := outbox.frames ++ [frame] }
  else { frames := [], sent := outbox.sent ++ [outbox.frames ++ [frame]] }

@[simp]
theorem put_more (outbox : Outbox Frame) (frame : Frame) :
    outbox.put frame true = { outbox with frames := outbox.frames ++ [frame] } := rfl

@[simp]
theorem put_last (outbox : Outbox Frame) (frame : Frame) :
    outbox.put frame false =
      { frames := [], sent := outbox.sent ++ [outbox.frames ++ [frame]] } := rfl

theorem put_ne (outbox : Outbox Frame) (frame : Frame) (more : Bool) :
    outbox.put frame more ≠ outbox := by
  intro same
  cases more with
  | true => simpa using congrArg Outbox.frames same
  | false => simpa using congrArg Outbox.sent same

end Outbox

end Multipart
