import AstHierarchy.Proofs.Outcome
import AstHierarchy.Render.Writing

/-!
# Traces

Every action of this library touches a buffer only by writing to it: it never looks at what has
been written, nor at how much room is left. What such an action does is then known from its run on
a buffer that refuses nothing, that is, from its writes one by one and its result. This is its
trace. On any other buffer the same writes are made until one is refused.

* `OnlyWrites` says that an action has this form. It holds of a write and is kept by sequencing
  (`OnlyWrites.bind`).
* `Gives` says what an action adds to a buffer without a limit, failures included. It asks for less
  than `OnlyWrites`, and is kept by sequencing as well (`Gives.bind`, `Gives.bind_of_error`).
* `trace_bind` says what the trace of two actions in a row is. For the texts this is `toText_bind`:
  the text of two actions in a row is the text of the first followed by the text of the second.
-/

namespace AstHierarchy

/-- Make the writes one by one and end with the result, unless a write is refused. -/
def Buffer.replay {α : Type} (result : Except TemplateError α) :
    List Text → Buffer → Except TemplateError α × Buffer
  | [], b => (result, b)
  | t :: rest, b =>
    match b.push? t with
    | some b' => replay result rest b'
    | none => (.error .refusedWrite, b)

namespace Buffer

/-- Where nothing is refused, all writes are kept. -/
theorem replay_of_room_eq_none {α : Type} (result : Except TemplateError α) (writes : List Text)
    {b : Buffer} (h : b.room = none) :
    replay result writes b = (result, { b with kept := writes.reverse ++ b.kept }) := by
  induction writes generalizing b with
  | nil => rfl
  | cons t rest ih =>
    rw [replay, push?_of_room_eq_none h]
    simp only
    rw [ih (b := { b with kept := t :: b.kept }) h]
    simp

/-- More writes are made if the ones before them have been. -/
theorem replay_append {α β : Type} (result : Except TemplateError β) (a : α)
    (writes more : List Text) (b : Buffer) :
    replay result (writes ++ more) b =
      match replay (.ok a) writes b with
      | (.ok _, b') => replay result more b'
      | (.error e, b') => (.error e, b') := by
  induction writes generalizing b with
  | nil => rfl
  | cons t rest ih =>
    simp only [List.cons_append, replay]
    cases b.push? t with
    | none => rfl
    | some b' => exact ih b'

end Buffer

namespace Writing

variable {α β : Type}

/-! ## The trace of an action -/

/-- What an action does where nothing is refused. -/
structure Trace (α : Type) where
  /-- The writes, in order. -/
  writes : List Text
  /-- The result. -/
  result : Except TemplateError α

namespace Trace

/-- Writes that succeed, and nothing else. -/
def units (writes : List Text) : Trace Unit := { writes, result := .ok () }

/-- An error before anything is written. -/
def failure (e : TemplateError) : Trace Unit := { writes := [], result := .error e }

/-- The first trace, and then the second one unless the first one ends with an error. -/
def andThen (s t : Trace Unit) : Trace Unit :=
  match s.result with
  | .ok _ => { writes := s.writes ++ t.writes, result := t.result }
  | .error e => { writes := s.writes, result := .error e }

end Trace

/-- The trace of an action. -/
def trace (w : Writing α) : Trace α :=
  { writes := (w.perform Buffer.unlimited).2.writes, result := (w.perform Buffer.unlimited).1 }

/-- The action does to every buffer what its trace says. -/
def OnlyWrites (w : Writing α) : Prop := ∀ b, w.perform b = b.replay w.trace.result w.trace.writes

/-- The text of an action is that of its trace. -/
theorem toText_eq_trace (w : Writing Unit) :
    w.toText = w.trace.result.map fun _ => w.trace.writes.flatten := by
  unfold toText trace
  rcases w.perform Buffer.unlimited with ⟨_ | _, b⟩ <;> rfl

/-- An action that does the same as a replay everywhere has the writes and the result of it as its
trace. -/
theorem trace_eq_of_forall_replay {w : Writing α} {writes : List Text}
    {result : Except TemplateError α} (h : ∀ b, w.perform b = b.replay result writes) :
    w.trace = { writes, result } := by
  rw [trace, h, Buffer.replay_of_room_eq_none result writes rfl]
  simp [Buffer.writes, Buffer.unlimited, Buffer.empty]

theorem OnlyWrites.of_forall_replay {w : Writing α} {writes : List Text}
    {result : Except TemplateError α} (h : ∀ b, w.perform b = b.replay result writes) :
    OnlyWrites w := by
  intro b
  rw [trace_eq_of_forall_replay h]
  exact h b

/-! ## Single actions -/

theorem perform_pure_eq_replay (a : α) (b : Buffer) :
    (pure a : Writing α).perform b = b.replay (.ok a) [] := rfl

theorem perform_throw_eq_replay (e : TemplateError) (b : Buffer) :
    (throw e : Writing α).perform b = b.replay (.error e) [] := rfl

theorem perform_write_eq_replay (t : Text) (b : Buffer) :
    (write t).perform b = b.replay (.ok ()) [t] := by
  rw [perform_write, Buffer.replay]
  cases b.push? t <;> rfl

theorem OnlyWrites.pure (a : α) : OnlyWrites (pure a : Writing α) :=
  .of_forall_replay (perform_pure_eq_replay a)

theorem OnlyWrites.throw (e : TemplateError) : OnlyWrites (throw e : Writing α) :=
  .of_forall_replay (perform_throw_eq_replay e)

theorem OnlyWrites.write (t : Text) : OnlyWrites (write t) :=
  .of_forall_replay (perform_write_eq_replay t)

@[simp] theorem trace_write (t : Text) : (Writing.write t).trace = .units [t] :=
  trace_eq_of_forall_replay (perform_write_eq_replay t)

@[simp] theorem toText_pure : (Pure.pure () : Writing Unit).toText = .ok [] := rfl

@[simp] theorem toText_throw (e : TemplateError) :
    (MonadExcept.throw e : Writing Unit).toText = .error e := rfl

@[simp] theorem toText_write (t : Text) : (Writing.write t).toText = .ok t := by
  rw [toText_eq_trace, trace_write]
  exact congrArg Except.ok List.flatten_singleton

/-! ## Actions in a row -/

/-- Where the first action succeeds, the second one adds its writes and gives the result. -/
theorem perform_bind_eq_replay_of_ok {w : Writing α} {f : α → Writing β} {a : α}
    (hw : OnlyWrites w) (hf : OnlyWrites (f a)) (h : w.trace.result = .ok a) (b : Buffer) :
    (w >>= f).perform b = b.replay (f a).trace.result (w.trace.writes ++ (f a).trace.writes) := by
  rw [perform_bind, hw b, h, Buffer.replay_append _ a]
  -- a replay that succeeds does so with the result that it was given
  have hres : ∀ (ws : List Text) (b : Buffer) (x : α) (b' : Buffer),
      b.replay (.ok a) ws = (.ok x, b') → x = a := by
    intro ws
    induction ws with
    | nil => rintro b x b' ⟨⟩; rfl
    | cons t rest ih =>
      intro b x b' heq
      rw [Buffer.replay] at heq
      split at heq
      · exact ih _ _ _ heq
      · cases heq
  rcases hr : b.replay (.ok a) w.trace.writes with ⟨_ | x, b'⟩
  · rfl
  · obtain rfl := hres _ _ _ _ hr
    exact hf b'

/-- Where the first action fails, nothing follows. -/
theorem perform_bind_eq_replay_of_error {w : Writing α} {e : TemplateError}
    (f : α → Writing β) (hw : OnlyWrites w) (h : w.trace.result = .error e) (b : Buffer) :
    (w >>= f).perform b = b.replay (.error e) w.trace.writes := by
  rw [perform_bind, hw b, h]
  induction w.trace.writes generalizing b with
  | nil => rfl
  | cons t rest ih =>
    simp only [Buffer.replay]
    cases b.push? t with
    | none => rfl
    | some b' => exact ih b'

theorem OnlyWrites.bind {w : Writing α} {f : α → Writing β} (hw : OnlyWrites w)
    (hf : ∀ a, OnlyWrites (f a)) : OnlyWrites (w >>= f) := by
  cases h : w.trace.result with
  | ok a => exact .of_forall_replay (perform_bind_eq_replay_of_ok hw (hf a) h)
  | error e => exact .of_forall_replay (perform_bind_eq_replay_of_error f hw h)

/-- **The trace of two actions in a row** is the trace of the first, and then that of the second. -/
theorem trace_bind {w : Writing Unit} {f : Unit → Writing Unit} (hw : OnlyWrites w)
    (hf : OnlyWrites (f ())) : (w >>= f).trace = w.trace.andThen (f ()).trace := by
  unfold Trace.andThen
  cases h : w.trace.result with
  | ok a => exact trace_eq_of_forall_replay (perform_bind_eq_replay_of_ok hw hf h)
  | error e => exact trace_eq_of_forall_replay (perform_bind_eq_replay_of_error f hw h)

/-- **The text of two actions in a row** is the text of the first followed by the text of the
second. -/
theorem toText_bind {w : Writing Unit} {f : Unit → Writing Unit} (hw : OnlyWrites w)
    (hf : OnlyWrites (f ())) :
    (w >>= f).toText = do
      let first ← w.toText
      let second ← (f ()).toText
      return first ++ second := by
  rw [toText_eq_trace, toText_eq_trace, toText_eq_trace, trace_bind hw hf, Trace.andThen]
  cases w.trace.result with
  | error e => rfl
  | ok a =>
    cases (f ()).trace.result with
    | error e => rfl
    | ok _ =>
      simp only [List.flatten_append]
      rfl

/-! ## Blanks -/

theorem OnlyWrites.writeBlanks (n : Nat) : OnlyWrites (writeBlanks n) := by
  induction n with
  | zero => exact .pure ()
  | succ n ih => exact .bind (.write [' ']) fun _ => ih

@[simp] theorem trace_writeBlanks (n : Nat) :
    (Writing.writeBlanks n).trace = .units (List.replicate n [' ']) := by
  induction n with
  | zero => rfl
  | succ n ih =>
    rw [Writing.writeBlanks, trace_bind (.write [' ']) (.writeBlanks n), trace_write, ih]
    rfl

@[simp] theorem toText_writeBlanks (n : Nat) :
    (Writing.writeBlanks n).toText = .ok (List.replicate n ' ') := by
  rw [toText_eq_trace, trace_writeBlanks]
  exact congrArg Except.ok List.flatten_replicate_singleton

/-! ## What an action adds -/

/-- Where nothing is refused, the action adds the text to what has been written before and ends
with the result. An action that fails may have written a text all the same. -/
def Gives (w : Writing Unit) (text : Text) (result : Except TemplateError Unit) : Prop :=
  ∀ b : Buffer, b.room = none →
    ∃ b', w.perform b = (result, b') ∧ b'.content = b.content ++ text ∧ b'.room = none

/-- An action that only writes gives its own writes and its own result. -/
theorem OnlyWrites.gives {w : Writing Unit} (h : OnlyWrites w) :
    Gives w w.trace.writes.flatten w.trace.result := by
  intro b hb
  refine ⟨_, (h b).trans (Buffer.replay_of_room_eq_none _ _ hb), ?_, hb⟩
  simp [Buffer.content, Buffer.writes]

theorem OnlyWrites.gives_of_toText {w : Writing Unit} (h : OnlyWrites w) {t : Text}
    (ht : w.toText = .ok t) : Gives w t (.ok ()) := by
  rw [toText_eq_trace, map_eq_ok_iff] at ht
  obtain ⟨u, hu, hwrites⟩ := ht
  have hgives := h.gives
  rw [hu, hwrites] at hgives
  exact hgives

variable {w : Writing Unit} {f g : Unit → Writing Unit} {t u : Text}
  {result : Except TemplateError Unit} {e : TemplateError}

theorem Gives.bind (hw : Gives w t (.ok ())) (hf : Gives (f ()) u result) :
    Gives (w >>= f) (t ++ u) result := by
  intro b hb
  obtain ⟨b₁, hperform₁, hcontent₁, hroom₁⟩ := hw b hb
  obtain ⟨b₂, hperform₂, hcontent₂, hroom₂⟩ := hf b₁ hroom₁
  refine ⟨b₂, ?_, ?_, hroom₂⟩
  · rw [perform_bind, hperform₁]
    exact hperform₂
  · rw [hcontent₂, hcontent₁, List.append_assoc]

/-- Nothing follows an action that fails. -/
theorem Gives.bind_of_error (hw : Gives w t (.error e)) : Gives (w >>= f) t (.error e) := by
  intro b hb
  obtain ⟨b', hperform, hcontent, hroom⟩ := hw b hb
  exact ⟨b', by rw [perform_bind, hperform], hcontent, hroom⟩

/-- What follows an action matters only if the action succeeds, and only on what it leaves. -/
theorem Gives.perform_bind_congr (hw : Gives w t result)
    (hfg : result = .ok () → ∀ b, b.room = none → (f ()).perform b = (g ()).perform b) {b : Buffer}
    (hb : b.room = none) : (w >>= f).perform b = (w >>= g).perform b := by
  obtain ⟨b', hperform, -, hroom⟩ := hw b hb
  rw [perform_bind, perform_bind, hperform]
  cases result with
  | error e => rfl
  | ok u => exact hfg rfl b' hroom

end Writing

end AstHierarchy
