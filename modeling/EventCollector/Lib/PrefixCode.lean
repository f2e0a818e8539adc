import Mathlib.Data.List.Infix

/-!
Streams of self-delimiting messages. When no encoding is a prefix of another
one, the ways to read messages off the front of a stream are prefixes of each
other, so a reader that goes on until it is stuck has found the longest one.
-/

structure PrefixCode (Message Letter : Type) where
  admissible : Message → Prop
  encode : Message → List Letter
  nonempty : ∀ message, admissible message → encode message ≠ []
  apart : ∀ first second, admissible first → admissible second →
    encode first <+: encode second → first = second

namespace PrefixCode

variable {Message Letter : Type} (code : PrefixCode Message Letter)

def encodeAll (messages : List Message) : List Letter := (messages.map code.encode).flatten

def Decodes (messages : List Message) (stream : List Letter) : Prop :=
  (∀ message ∈ messages, code.admissible message) ∧ code.encodeAll messages <+: stream

/-- The one longest list of admissible messages that `stream` starts with. -/
structure Longest (messages : List Message) (stream : List Letter) : Prop where
  decodes : code.Decodes messages stream
  longest : ∀ others, code.Decodes others stream → others.length ≤ messages.length
  unique : ∀ others, code.Decodes others stream → others.length = messages.length →
    others = messages

def Stuck (stream : List Letter) : Prop :=
  ∀ message, code.admissible message → ¬ code.encode message <+: stream

variable {code}

@[simp] theorem encodeAll_nil : code.encodeAll [] = [] := rfl

@[simp] theorem encodeAll_cons (message : Message) (messages : List Message) :
    code.encodeAll (message :: messages) = code.encode message ++ code.encodeAll messages := rfl

@[simp] theorem encodeAll_append (first second : List Message) :
    code.encodeAll (first ++ second) = code.encodeAll first ++ code.encodeAll second := by
  simp [encodeAll]

theorem decodes_cons {message : Message} {messages : List Message} {stream : List Letter} :
    code.Decodes (message :: messages) stream ↔ code.admissible message ∧
      ∃ rest, stream = code.encode message ++ rest ∧ code.Decodes messages rest := by
  constructor
  · rintro ⟨admissible, tail, rfl⟩
    refine ⟨admissible message (by simp), code.encodeAll messages ++ tail, ?_, ?_, ?_⟩
    · rw [encodeAll_cons, List.append_assoc]
    · exact fun other member => admissible other (by simp [member])
    · exact List.prefix_append _ _
  · rintro ⟨first, rest, rfl, later, tail, rfl⟩
    refine ⟨?_, tail, ?_⟩
    · intro other member
      rcases List.mem_cons.mp member with rfl | member
      · exact first
      · exact later other member
    · rw [encodeAll_cons, List.append_assoc]

theorem decodes_comparable {first second : List Message} {stream : List Letter}
    (one : code.Decodes first stream) (other : code.Decodes second stream) :
    first <+: second ∨ second <+: first := by
  induction first generalizing second stream with
  | nil => exact Or.inl List.nil_prefix
  | cons message rest ih =>
      cases second with
      | nil => exact Or.inr List.nil_prefix
      | cons message' rest' =>
          obtain ⟨admissible, tail, split, later⟩ := decodes_cons.mp one
          obtain ⟨admissible', tail', split', later'⟩ := decodes_cons.mp other
          have starts : code.encode message <+: stream := ⟨tail, split.symm⟩
          have starts' : code.encode message' <+: stream := ⟨tail', split'.symm⟩
          have same : message = message' := by
            rcases List.prefix_or_prefix_of_prefix starts starts' with shorter | shorter
            · exact code.apart message message' admissible admissible' shorter
            · exact (code.apart message' message admissible' admissible shorter).symm
          subst same
          have sameTail : tail = tail' := by
            rw [split] at split'
            exact List.append_cancel_left split'
          subst sameTail
          simp only [List.prefix_cons_inj]
          exact ih later later'

theorem stuck_nil : code.Stuck [] := by
  intro message admissible starts
  exact code.nonempty message admissible (List.prefix_nil.mp starts)

theorem stuck_of_truncated {message : Message} {part : List Letter}
    (admissible : code.admissible message) (cut : part <+: code.encode message)
    (proper : part ≠ code.encode message) : code.Stuck part := by
  intro other admissible' starts
  have same := code.apart other message admissible' admissible (starts.trans cut)
  subst same
  exact proper (cut.eq_of_length (le_antisymm cut.length_le starts.length_le))

theorem longest_of_stuck {messages : List Message} {rest : List Letter}
    (admissible : ∀ message ∈ messages, code.admissible message) (stuck : code.Stuck rest) :
    code.Longest messages (code.encodeAll messages ++ rest) := by
  have decodes : code.Decodes messages (code.encodeAll messages ++ rest) :=
    ⟨admissible, List.prefix_append _ _⟩
  have shorter (others : List Message)
      (other : code.Decodes others (code.encodeAll messages ++ rest)) : others <+: messages := by
    rcases decodes_comparable other decodes with shorter | ⟨more, rfl⟩
    · exact shorter
    · cases more with
      | nil => rw [List.append_nil]
      | cons message more =>
          obtain ⟨admissible', starts⟩ := other
          rw [encodeAll_append, List.prefix_append_right_inj, encodeAll_cons] at starts
          have reads : code.encode message <+: rest := (List.prefix_append _ _).trans starts
          exact absurd reads (stuck message (admissible' message (by simp)))
  refine ⟨decodes, fun others other => (shorter others other).length_le, ?_⟩
  exact fun others other same => (shorter others other).eq_of_length same

theorem Longest.eq {first second : List Message} {stream : List Letter}
    (one : code.Longest first stream) (other : code.Longest second stream) : first = second :=
  other.unique first one.decodes
    (le_antisymm (other.longest first one.decodes) (one.longest second other.decodes))

theorem longest_encodeAll {messages : List Message}
    (admissible : ∀ message ∈ messages, code.admissible message) :
    code.Longest messages (code.encodeAll messages) := by
  simpa using longest_of_stuck admissible stuck_nil

end PrefixCode
