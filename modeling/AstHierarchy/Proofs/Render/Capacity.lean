import AstHierarchy.Proofs.Render.Units
import Mathlib.Order.Bounds.Basic

/-!
# Buffers with limited room

A buffer with limited room sees the beginning of what a buffer without a limit sees: it keeps the
writes one after the other as long as they fit, and from the first one that does not fit nothing is
kept any more.

An action that is put together from writes, errors and sequencing has no other way to touch a
buffer (`MadeOfWrites.onlyWrites`). Every action of this library is one, and what can be called from
outside is listed by `Call`.

* `Call.perform_eq_beginning` is the main result.
-/

namespace AstHierarchy

/-! ## Room -/

namespace Buffer

/-- The number of bytes that the buffer accepts in total, if that is limited. -/
def limit (b : Buffer) : Option Nat := b.room.map (b.content.utf8Size + ·)

theorem limit_empty (room : Option Nat) : (empty room).limit = room := by
  cases room with
  | none => rfl
  | some bytes => simp [limit, empty, content, writes]

theorem content_of_push? {b b' : Buffer} {t : Text} (h : b.push? t = some b') :
    b'.content = b.content ++ t := by
  rw [content, writes_of_push? h, List.flatten_append, List.flatten_singleton]
  rfl

/-- A write changes nothing about the limit. -/
theorem limit_of_push? {b b' : Buffer} {t : Text} (h : b.push? t = some b') :
    b'.limit = b.limit := by
  cases hroom : b.room with
  | none =>
    rw [push?_of_room_eq_none hroom] at h
    obtain rfl := Option.some.inj h
    simp [limit, hroom]
  | some bytes =>
    obtain ⟨left, hleft, hsize⟩ := size_add_room_of_push? hroom h
    simp [limit, hroom, hleft, hsize]

/-- What has been written does not exceed the limit. -/
theorem utf8Size_content_le {b : Buffer} {bytes : Nat} (h : b.limit = some bytes) :
    b.content.utf8Size ≤ bytes := by
  obtain ⟨left, -, rfl⟩ := Option.map_eq_some_iff.1 h
  exact Nat.le_add_right _ _

/-- A write fits if it does not pass the limit. -/
theorem push?_eq_none_iff {b : Buffer} {bytes : Nat} (h : b.limit = some bytes) (t : Text) :
    b.push? t = none ↔ bytes < b.content.utf8Size + t.utf8Size := by
  obtain ⟨left, hleft, rfl⟩ := Option.map_eq_some_iff.1 h
  unfold push?
  rw [hleft]
  simp only
  split
  · simp
    omega
  · simp
    omega

/-- So many of the writes fit into the buffer, one after the other. -/
def Fits (b : Buffer) (bytes : Nat) (writes : List Text) (count : Nat) : Prop :=
  count ≤ writes.length ∧ b.content.utf8Size + Text.utf8Size (writes.take count).flatten ≤ bytes

instance (b : Buffer) (bytes : Nat) (writes : List Text) (count : Nat) :
    Decidable (b.Fits bytes writes count) :=
  inferInstanceAs (Decidable (_ ∧ _))

/-- A replay only adds to a buffer. -/
theorem replay_extends {α : Type} (result : Except TemplateError α) (ws : List Text) (b : Buffer) :
    b.writes <+: (b.replay result ws).2.writes ∧ (b.replay result ws).2.limit = b.limit := by
  induction ws generalizing b with
  | nil => exact ⟨List.prefix_refl _, rfl⟩
  | cons t rest ih =>
    rw [replay]
    cases hpush : b.push? t with
    | none => exact ⟨List.prefix_refl _, rfl⟩
    | some b' =>
      obtain ⟨hwrites, hlimit⟩ := ih b'
      rw [writes_of_push? hpush] at hwrites
      rw [limit_of_push? hpush] at hlimit
      exact ⟨(List.prefix_append _ _).trans hwrites, hlimit⟩

/-- **A replay keeps as many writes as fit.** -/
theorem replay_eq_beginning {α : Type} (result : Except TemplateError α) (ws : List Text)
    {b : Buffer} {bytes : Nat} (h : b.limit = some bytes) :
    ∃ count, IsGreatest {n | b.Fits bytes ws n} count ∧
      (b.replay result ws).2.writes = b.writes ++ ws.take count ∧
      (b.replay result ws).1 = if count = ws.length then result else .error .refusedWrite := by
  induction ws generalizing b with
  | nil =>
    refine ⟨0, ⟨⟨Nat.le_refl 0, ?_⟩, fun n hn => hn.1⟩, ?_, rfl⟩
    · simpa using utf8Size_content_le h
    · simp [replay]
  | cons t rest ih =>
    rw [replay]
    cases hpush : b.push? t with
    | none =>
      -- not even the first write fits
      have hpass : bytes < b.content.utf8Size + t.utf8Size := (push?_eq_none_iff h t).1 hpush
      refine ⟨0, ⟨⟨Nat.zero_le _, ?_⟩, fun n hn => ?_⟩, ?_, ?_⟩
      · simpa using utf8Size_content_le h
      · cases n with
        | zero => exact Nat.le_refl 0
        | succ n =>
          have hsize := hn.2
          simp at hsize
          omega
      · simp
      · simp
    | some b' =>
      have hb' : b'.limit = some bytes := (limit_of_push? hpush).trans h
      have hcontent : b'.content = b.content ++ t := content_of_push? hpush
      obtain ⟨count, ⟨hfits, hgreatest⟩, hwrites, hresult⟩ := ih hb'
      -- one more write fits into `b` than into what is left of it
      have hstep : ∀ n, b.Fits bytes (t :: rest) (n + 1) ↔ b'.Fits bytes rest n := by
        intro n
        simp [Fits, hcontent, Nat.add_assoc]
      refine ⟨count + 1, ⟨(hstep count).2 hfits, fun n hn => ?_⟩, ?_, ?_⟩
      · cases n with
        | zero => exact Nat.zero_le _
        | succ n => exact Nat.succ_le_succ (hgreatest ((hstep n).1 hn))
      · simp [hwrites, writes_of_push? hpush]
      · simp [hresult]

end Buffer

/-! ## Actions made of writes -/

namespace Writing

/-- The action is put together from writes and errors. It neither looks at the buffer nor goes on
after a write that has been refused. -/
inductive MadeOfWrites : {α : Type} → Writing α → Prop where
  /-- There is nothing to do but to give a result. -/
  | pure {α : Type} (a : α) : MadeOfWrites (Pure.pure a : Writing α)
  /-- There is nothing to do but to fail. -/
  | throw {α : Type} (e : TemplateError) : MadeOfWrites (MonadExcept.throw e : Writing α)
  /-- A text is written as one unit. -/
  | write (t : Text) : MadeOfWrites (Writing.write t)
  /-- One action after the other. -/
  | bind {α β : Type} {w : Writing α} {f : α → Writing β} (hw : MadeOfWrites w)
    (hf : ∀ a, MadeOfWrites (f a)) : MadeOfWrites (w >>= f)

/-- What is made of writes does nothing but write. -/
theorem MadeOfWrites.onlyWrites {α : Type} {w : Writing α} (h : MadeOfWrites w) :
    OnlyWrites w := by
  induction h with
  | pure a => exact .pure a
  | throw e => exact .throw e
  | write t => exact .write t
  | bind _ _ ihw ihf => exact .bind ihw ihf

/-- What makes these writes one by one and ends with the result is made of writes. -/
theorem MadeOfWrites.of_replay {α : Type} {w : Writing α} {result : Except TemplateError α}
    {writes : List Text} (h : ∀ b, w.perform b = b.replay result writes) : MadeOfWrites w := by
  induction writes generalizing w with
  | nil =>
    cases result with
    | ok a =>
      obtain rfl : w = Pure.pure a := funext h
      exact .pure a
    | error e =>
      obtain rfl : w = MonadExcept.throw e := funext h
      exact .throw e
  | cons t rest ih =>
    -- the action is its first write, and then the replay of the other ones
    have hw : w = Writing.write t >>= fun _ => (fun b => b.replay result rest : Writing α) := by
      funext b
      refine (h b).trans (Eq.trans ?_ (perform_bind _ _ b).symm)
      rw [Buffer.replay, perform_write]
      cases b.push? t <;> rfl
    rw [hw]
    exact .bind (.write t) fun _ => ih fun _ => rfl

/-- What does nothing but write is made of writes, and conversely. -/
theorem madeOfWrites_iff_onlyWrites {α : Type} {w : Writing α} : MadeOfWrites w ↔ OnlyWrites w :=
  ⟨MadeOfWrites.onlyWrites, MadeOfWrites.of_replay⟩

/-- An action that only writes adds to the buffer and leaves the limit as it is. -/
theorem OnlyWrites.extends {α : Type} {w : Writing α} (h : OnlyWrites w) (b : Buffer) :
    b.writes <+: (w.perform b).2.writes ∧ (w.perform b).2.limit = b.limit := by
  rw [h b]
  exact Buffer.replay_extends _ _ b

end Writing

/-! ## Calls -/

open Writing

/-- What can be called to write to a buffer. -/
inductive Call where
  /-- Render a span in a scope. -/
  | render (template : Template) (scope : Scope) (indent : Nat) (span : Span)
  /-- Write what is bound. -/
  | expand (template : Template) (b : Binding) (layout : ListLayout) (indent : Nat)
  /-- Write a list with an action of one's own for the items. -/
  | list {α : Type} (layout : ListLayout) (indent : Nat) (item : α → Writing Unit)
    (hitem : ∀ a, MadeOfWrites (item a)) (items : List α)
  /-- Write a text. -/
  | text (t : Text)
  /-- Write blanks. -/
  | blanks (columns : Nat)

namespace Call

/-- What is done. -/
def action : Call → Writing Unit
  | render template scope indent span => span.render template scope indent
  | expand template b layout indent => b.write template layout indent
  | list layout indent item _ items => writeList layout indent item items
  | text t => write t
  | blanks columns => writeBlanks columns

/-- What is written unit by unit, and the result. -/
def trace : Call → Trace Unit
  | render template scope indent span => span.traceFrom (scope.trace template) indent 0
  | expand template b layout indent => b.trace template layout indent
  | list layout indent item _ items => layout.trace indent (items.map fun a => (item a).trace)
  | text t => .units [t]
  | blanks columns => .units (List.replicate columns [' '])

theorem onlyWrites_action (call : Call) : OnlyWrites call.action := by
  cases call with
  | render template scope indent span => exact span.onlyWrites_render template scope indent
  | expand template b layout indent => exact b.onlyWrites_write template layout indent
  | list layout indent item hitem items =>
    exact .writeList layout indent (fun a => (hitem a).onlyWrites) items
  | text t => exact .write t
  | blanks columns => exact .writeBlanks columns

theorem trace_action (call : Call) : call.action.trace = call.trace := by
  cases call with
  | render template scope indent span => exact span.trace_render template scope indent
  | expand template b layout indent => exact b.trace_write template layout indent
  | list layout indent item hitem items =>
    exact trace_writeList layout indent (fun a => (hitem a).onlyWrites) items
  | text t => exact trace_write t
  | blanks columns => exact trace_writeBlanks columns

/-- **A buffer with limited room sees the beginning** of what is written where nothing is refused:
as many units as fit one after the other. The result is the same if all of them do, and otherwise a
write has been refused; so any other error tells that everything before it has been written. -/
theorem perform_eq_beginning (call : Call) {b : Buffer} {bytes : Nat}
    (hlimit : b.limit = some bytes) :
    (call.action.perform .unlimited).2.writes = call.trace.writes ∧
    (call.action.perform .unlimited).1 = call.trace.result ∧
    ∃ count, IsGreatest {n | b.Fits bytes call.trace.writes n} count ∧
      (call.action.perform b).2.writes = b.writes ++ call.trace.writes.take count ∧
      (call.action.perform b).2.content =
        b.content ++ (call.trace.writes.take count).flatten ∧
      (call.action.perform b).2.limit = some bytes ∧
      (call.action.perform b).1 =
        (if count = call.trace.writes.length then call.trace.result else .error .refusedWrite) ∧
      ∀ e, (call.action.perform b).1 = .error e → e ≠ .refusedWrite →
        count = call.trace.writes.length ∧ call.trace.result = .error e := by
  have hperform := call.onlyWrites_action b
  rw [trace_action] at hperform
  obtain ⟨count, hcount, hwrites, hresult⟩ :=
    b.replay_eq_beginning call.trace.result call.trace.writes hlimit
  rw [← hperform] at hwrites hresult
  refine ⟨?_, ?_, count, hcount, hwrites, ?_, ?_, hresult, fun e he hne => ?_⟩
  · exact congrArg Trace.writes call.trace_action
  · exact congrArg Trace.result call.trace_action
  · rw [Buffer.content, hwrites, List.flatten_append]
    rfl
  · exact ((call.onlyWrites_action).extends b).2.trans hlimit
  · rw [hresult] at he
    split at he
    · exact ⟨‹_›, he⟩
    · cases he
      exact absurd rfl hne

/-- A list with items of one byte, of none and of two bytes. -/
def mixedList : Call :=
  .list { delimiter := some '→', oneLine := true } 0 write .write ["a".toList, [], "é".toList]

/-- Into the five bytes that are left go an item, a delimiter of three bytes, a blank, and then
still an item without bytes. -/
theorem perform_eq_beginning_mixedList :
    Buffer.limit { kept := ["x".toList], room := some 5 } = some 6 ∧
    (mixedList.action.perform { kept := ["x".toList], room := some 5 }).2.writes =
      ["x".toList, "a".toList, ['→'], [' '], []] ∧
    (mixedList.action.perform { kept := ["x".toList], room := some 5 }).1 =
      .error .refusedWrite := by
  have hlimit : Buffer.limit { kept := ["x".toList], room := some 5 } = some 6 := by decide
  obtain ⟨-, -, count, hcount, hwrites, -, -, hresult, -⟩ := perform_eq_beginning mixedList hlimit
  have htrace : mixedList.trace.writes =
      ["a".toList, ['→'], [' '], [], ['→'], [' '], "é".toList] := by
    simp [mixedList, trace, ListLayout.trace, ListLayout.traceAfter, Trace.andThen, Trace.units,
      ListLayout.separatorUnits, ListLayout.delimiterUnits]
  rw [htrace] at hcount hwrites hresult
  have hfour : count = 4 := by
    refine hcount.unique ⟨by decide, fun n hn => ?_⟩
    have hall : ∀ n < 8, Buffer.Fits { kept := ["x".toList], room := some 5 } 6
        ["a".toList, ['→'], [' '], [], ['→'], [' '], "é".toList] n → n ≤ 4 := by decide
    exact hall n (Nat.lt_succ_of_le hn.1) hn
  subst hfour
  exact ⟨hlimit, hwrites, hresult⟩

end Call

end AstHierarchy
