import AstHierarchy.Text.Basic

/-!
# Events

What a run reports about itself while it works: one event for each stage that it reaches. A stage
that fails reports nothing of its own, so the last event tells how far a run came.
-/

namespace AstHierarchy

/-- Something that a run reports. -/
inductive Event where
  /-- A whole grammar has been read. -/
  | grammarRead (types : Nat)
  /-- The text of a hierarchy is about to be made. -/
  | hierarchyBegun (language base : Text) (types : Nat)
  /-- A namespace was asked for, but the language declares none. -/
  | namespaceIgnored (language name : Text)
  deriving DecidableEq, Repr

/-- Whether the event is a warning; the others are for those who want to follow every step. -/
def Event.isWarning : Event → Bool
  | namespaceIgnored .. => true
  | grammarRead .. | hierarchyBegun .. => false

/-- The event in words. -/
def Event.message : Event → Text
  | grammarRead .. => "parsed grammar".toList
  | hierarchyBegun .. => "emitting hierarchy".toList
  | namespaceIgnored .. =>
    "language has no namespace declaration, ignoring namespace".toList

/-- A result together with the events on the way to it. -/
structure Logged (α : Type) where
  /-- The events, in the order in which they happened. -/
  events : List Event
  /-- The result. -/
  result : α
  deriving DecidableEq, Repr

end AstHierarchy
