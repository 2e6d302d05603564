import MqlMySql.Library.Trail
import MqlMySql.Model.DllState
import MqlMySql.Spec.Errnos

/-!
# Where the conversation on a connection stands

An abstract model of the connections, in terms of the protocol alone: a connection is idle with some outcomes before
it, or busy with a result set which was asked for row by row. `cMySqlExecute` and `cMySqlCursorOpen` move it along the
outcomes of their queries, and what they answer depends on where it stands.

`MySqlExecute` takes a query for accepted unless the DLL-wide number is positive, also when the library refused it as
out of sync. So a connection which is not ready goes on with the outcomes of an earlier query.
-/

namespace MqlMySql

open Library

/-- `CR_COMMANDS_OUT_OF_SYNC`. -/
def outOfSync : ℕ := 2014

/-- A result set is no error. -/
theorem Outcome.number_of_rows {o : Outcome} (h : o.hasRows = true) : o.number = 0 := by
  cases o with
  | resultSet => rfl
  | done | error => cases h

/-- What a query gets: whether it succeeds, and the error number which the connection has then. -/
structure Answered where
  success : Bool
  number : ℤ
deriving DecidableEq, Repr

/-- Where a connection stands. -/
inductive Standing
  | idle (untaken : Bool) (rest : List Outcome)
  | busy (rest : List Outcome)
deriving DecidableEq, Repr

namespace Standing

/-- Nothing waits. -/
def ready : Standing := .idle false []

/-- At the first of some outcomes. -/
def start : List Outcome → Standing
  | [] => ready
  | o :: os => .idle o.hasRows os

variable (s : Standing) (os : Outcomes) (pending strict : Bool)

/-- A query is sent on a ready connection and refused on any other, with the error number of the handle. -/
def asked : Standing × ℕ :=
  if s = ready then (start os.list, (os.list.head os.nonempty).number) else (s, outOfSync)

/-- The result loop of `cMySqlExecute`, from the error number with which it starts: the number with which it ends, and
where the connection stands then. It asks for a result set to store; while another one is in use, a `strict` library
reports this as out of sync. -/
def drained : Standing → ℕ → ℕ × Standing
  | .busy rest, number => (if strict ∨ rest ≠ [] then outOfSync else number, .busy rest)
  | .idle true rest, _ => (if strict ∨ rest ≠ [] then outOfSync else 0, .busy rest)
  | .idle false rest, number => (rest.getLast?.elim number Outcome.number, ready)

/-- `cMySqlExecute`: the answer, and where the connection stands then. A success leaves the number which the query got
when it was sent. -/
def execute : Answered × Standing :=
  let sent := s.asked os
  if pending then (⟨false, sent.2⟩, sent.1)
  else
    let run := sent.1.drained strict sent.2
    (if run.1 = 0 then ⟨true, sent.2⟩ else ⟨false, run.1⟩, run.2)

/-- Where the connection stands once a result set which waits was stored. -/
def stored : Standing → Option Standing
  | .idle true rest => some (.idle false rest)
  | _ => none

/-- `cMySqlCursorOpen` on a free slot. Without a result set to store, it fails when there is an error number. -/
def openCursor : Answered × Standing :=
  let sent := s.asked os
  match if pending then none else sent.1.stored with
  | some s' => (⟨true, sent.2⟩, s')
  | none => (⟨sent.2 = 0, sent.2⟩, sent.1)

variable {s os pending strict}

/-- A query on a ready connection is answered by the server. -/
theorem asked_ready : ready.asked os = (start os.list, (os.list.head os.nonempty).number) := if_pos rfl

/-- A query on any other connection is out of sync. -/
theorem asked_of_ne (h : s ≠ ready) : s.asked os = (s, outOfSync) := if_neg h

/-- A busy connection stays busy, and every query on it fails. -/
theorem execute_busy (rest : List Outcome) :
    (busy rest).execute os pending strict = (⟨false, outOfSync⟩, busy rest) := by
  have hasked : (busy rest).asked os = (busy rest, outOfSync) := asked_of_ne (by simp [ready])
  cases pending <;> simp [execute, hasked, drained, outOfSync]

/-- No cursor opens on a busy connection. -/
theorem openCursor_busy (rest : List Outcome) :
    (busy rest).openCursor os pending = (⟨false, outOfSync⟩, busy rest) := by
  have hasked : (busy rest).asked os = (busy rest, outOfSync) := asked_of_ne (by simp [ready])
  cases pending <;> simp [openCursor, hasked, stored, outOfSync]

/-- The first outcome of an executed query has rows: the connection is busy from then on, and the query only succeeds
when it has no other outcome. -/
theorem execute_rows {o : Outcome} {rest : List Outcome} (hlist : os.list = o :: rest) (rows : o.hasRows = true) :
    ready.execute os false strict =
      (if strict ∨ rest ≠ [] then ⟨false, outOfSync⟩ else ⟨true, 0⟩, busy rest) := by
  have hnumber := Outcome.number_of_rows rows
  by_cases hfails : strict ∨ rest ≠ []
  · simp [execute, asked_ready, hlist, start, rows, drained, hfails, outOfSync]
  · simp [execute, asked_ready, hlist, start, rows, drained, hfails, hnumber]

/-- The other outcomes of a query whose result set a cursor takes are left. -/
theorem openCursor_ready {o : Outcome} {rest : List Outcome} (hlist : os.list = o :: rest) :
    (ready.openCursor os false).2 = idle false rest := by
  cases hrows : o.hasRows <;> simp [openCursor, asked_ready, hlist, start, stored, hrows]

/-- With outcomes left, executing a query drains them instead, and succeeds when the last of them is no error. -/
theorem execute_left (o : Outcome) (rest : List Outcome) : (idle false (o :: rest)).execute os false strict =
    (if ((o :: rest).getLast (List.cons_ne_nil o rest)).number = 0 then ⟨true, outOfSync⟩
      else ⟨false, ((o :: rest).getLast (List.cons_ne_nil o rest)).number⟩, ready) := by
  have hasked : (idle false (o :: rest)).asked os = (idle false (o :: rest), outOfSync) :=
    asked_of_ne (by simp [ready])
  simp [execute, hasked, drained, List.getLast?_eq_some_getLast (List.cons_ne_nil o rest)]

end Standing

/-- What happens on the connections. -/
inductive Event
  | connected (i : Fin maxConnections)
  | disconnected (i : Fin maxConnections)
  | executed (i : Fin maxConnections) (os : Outcomes) (pending : Bool) (answer : Answered)
  | opened (i : Fin maxConnections) (os : Outcomes) (pending : Bool) (answer : Answered)
  | other

/-- The standings of the live connections. -/
abbrev Standings : Type := Fin maxConnections → Option Standing

/-- One event on the connections. Whether the library is strict may change with every query. -/
inductive Standings.Step (S : Standings) : Event → Standings → Prop
  | connected (i : Fin maxConnections) (free : S i = none) :
      Step S (.connected i) (Function.update S i (some .ready))
  | disconnected (i : Fin maxConnections) (live : S i ≠ none) : Step S (.disconnected i) (Function.update S i none)
  | executed {i : Fin maxConnections} {s s' : Standing} {os : Outcomes} {pending strict : Bool} {answer : Answered}
      (stands : S i = some s) (runs : s.execute os pending strict = (answer, s')) :
      Step S (.executed i os pending answer) (Function.update S i (some s'))
  | opened {i : Fin maxConnections} {s s' : Standing} {os : Outcomes} {pending : Bool} {answer : Answered}
      (stands : S i = some s) (runs : s.openCursor os pending = (answer, s')) :
      Step S (.opened i os pending answer) (Function.update S i (some s'))
  | other : Step S .other S

/-- The event is no query on the connection which is answered otherwise. -/
def Event.Refuses (i : Fin maxConnections) : Event → Prop
  | .executed j _ _ answer | .opened j _ _ answer => j = i → answer = ⟨false, outOfSync⟩
  | _ => True

/-- The event is no query on the connection, and does not end it. -/
def Event.Spares (i : Fin maxConnections) : Event → Prop
  | .executed j _ _ _ | .opened j _ _ _ | .disconnected j => j ≠ i
  | _ => True

section Trails

variable {S S' : Standings} {e : Event} {events : List Event} {i : Fin maxConnections} {s : Standing}

/-- A busy connection refuses all queries, until it is disconnected. -/
theorem Standings.Step.busy {rest : List Outcome} (h : S.Step e S') (busy : S i = some (.busy rest))
    (lives : e ≠ .disconnected i) : S' i = some (.busy rest) ∧ e.Refuses i := by
  cases h with
  | connected j free =>
    have hji : i ≠ j := by
      rintro rfl
      rw [free] at busy
      cases busy
    exact ⟨by rw [Function.update_of_ne hji, busy], trivial⟩
  | disconnected j live =>
    have hji : i ≠ j := by
      rintro rfl
      exact lives rfl
    exact ⟨by rw [Function.update_of_ne hji, busy], trivial⟩
  | @executed j s s' os pending strict answer stands runs =>
    by_cases hji : i = j
    · subst hji
      rw [busy] at stands
      cases stands
      rw [Standing.execute_busy] at runs
      cases runs
      exact ⟨Function.update_self .., fun _ => rfl⟩
    · exact ⟨by rw [Function.update_of_ne hji, busy], fun h => absurd h.symm hji⟩
  | @opened j s s' os pending answer stands runs =>
    by_cases hji : i = j
    · subst hji
      rw [busy] at stands
      cases stands
      rw [Standing.openCursor_busy] at runs
      cases runs
      exact ⟨Function.update_self .., fun _ => rfl⟩
    · exact ⟨by rw [Function.update_of_ne hji, busy], fun h => absurd h.symm hji⟩
  | other => exact ⟨busy, trivial⟩

/-- A busy connection stays busy and refuses all which is asked of it, until it is disconnected. -/
theorem Standings.trail_busy {rest : List Outcome} (h : Trail Standings.Step S events S')
    (busy : S i = some (.busy rest))
    (lives : ∀ e ∈ events, e ≠ .disconnected i) : S' i = some (.busy rest) ∧ ∀ e ∈ events, e.Refuses i :=
  h.keeps (fun S => S i = some (.busy rest)) (Event.Refuses i)
    (fun e he _ _ hS hstep => hstep.busy hS (lives e he)) busy

/-- Between its queries a connection stands where it is. -/
theorem Standings.Step.spared (h : S.Step e S') (stands : S i = some s) (spares : e.Spares i) : S' i = some s := by
  cases h with
  | connected j free =>
    have hji : i ≠ j := by
      rintro rfl
      rw [free] at stands
      cases stands
    rw [Function.update_of_ne hji, stands]
  | disconnected | executed | opened => rw [Function.update_of_ne (Ne.symm spares), stands]
  | other => exact stands

/-- A connection which the events spare stays as it stands. -/
theorem Standings.trail_spared (h : Trail Standings.Step S events S') (stands : S i = some s)
    (spares : ∀ e ∈ events, e.Spares i) : S' i = some s :=
  (h.keeps (fun S => S i = some s) (fun _ => True)
    (fun e he _ _ hS hstep => ⟨hstep.spared hS (spares e he), trivial⟩) stands).1

end Trails

end MqlMySql
