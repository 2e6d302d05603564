import MqlMySql.Spec.Handles
import MqlMySql.Spec.Links
import MqlMySql.Spec.Touched
import Mathlib.Logic.Relation

/-!
# What a call does to the library

A call moves the library by library functions which it calls one after the other. All of them work on one handle:
on the one which `mysql_init` has just returned, or on that of the connection which the call names. Record sets are
no handles, so releasing one and fetching from one count as steps on any.
-/

namespace MqlMySql

open Library

variable {σ : Type} (host : Host σ)

/-- A library function which may change the library is called, on a handle. -/
inductive LibraryStep : Option Mysql → σ → σ → Prop
  | init (s : σ) : LibraryStep (host.mysqlInit s).1 s (host.mysqlInit s).2
  | realConnect (m : Mysql) (request : ConnectRequest) (s : σ) :
      LibraryStep (some m) s (host.mysqlRealConnect m request s).2
  | close (h : Option Mysql) (s : σ) : LibraryStep h s (host.mysqlClose h s)
  | realQuery (h : Option Mysql) (query : List UInt8) (length : ℕ) (s : σ) :
      LibraryStep h s (host.mysqlRealQuery h query length s).2
  | useResult (h : Option Mysql) (s : σ) : LibraryStep h s (host.mysqlUseResult h s).2
  | storeResult (h : Option Mysql) (s : σ) : LibraryStep h s (host.mysqlStoreResult h s).2
  | nextResult (h : Option Mysql) (s : σ) : LibraryStep h s (host.mysqlNextResult h s).2
  | freeResult (h : Option Mysql) (res : Option MysqlRes) (s : σ) : LibraryStep h s (host.mysqlFreeResult res s)
  | fetchRow (h : Option Mysql) (res : Option MysqlRes) (s : σ) :
      LibraryStep h s (host.mysqlFetchRow res s).2

/-- Library functions are called one after the other, all on one handle. -/
abbrev LibrarySteps (h : Option Mysql) : σ → σ → Prop := Relation.ReflTransGen (LibraryStep host h)

/-- How a call which names some connections moves the library. -/
inductive LibraryMove (names : Fin maxConnections → Prop) (w w' : World σ) : Prop
  | released (steps : LibrarySteps host none w.library w'.library)
  | allocated (h : Option Mysql) (lifecycle : w'.lifecycle = .init h :: w.lifecycle)
      (steps : LibrarySteps host h w.library w'.library)
  | commanded (i : Fin maxConnections) (named : names i)
      (steps : LibrarySteps host (w.handle i) w.library w'.library)

variable {host}

/-- The library stays as it is. -/
theorem LibraryMove.kept {names : Fin maxConnections → Prop} {w w' : World σ} (h : w'.library = w.library) :
    LibraryMove host names w w' := by
  apply LibraryMove.released
  rw [h]

section Steps

variable {w w' : World σ} {turns : ℕ} {p : ℤ} {q : WStr}

/-- Sending a query calls the library on the handle of its connection. -/
theorem World.sent_steps (i : Fin maxConnections) (q : WStr) (w : World σ) :
    LibrarySteps host (w.handle i) w.library (w.sent host i q).library := by
  rw [World.sent_library]
  exact .single (.realQuery ..)

/-- Taking a result and releasing it calls the library on the handle. -/
theorem World.taken_steps (h : Option Mysql) (w : World σ) :
    LibrarySteps host h w.library (w.taken host h).library := by
  have hstore : LibrarySteps host h w.library (host.mysqlStoreResult h w.library).2 :=
    .single (.storeResult ..)
  simp only [World.taken]
  split
  · exact hstore.tail (.freeResult ..)
  · exact hstore

/-- The result loop calls the library on one handle, by induction on the turns which are left. -/
theorem drained_steps {h : Option Mysql} {rSet : Option MysqlRes}
    (hrun : (drainResults host h turns).run w = .ok (rSet, w')) :
    LibrarySteps host h w.library w'.library := by
  induction turns generalizing w with
  | zero => simp [drainResults] at hrun
  | succ turns ih =>
    have htaken : LibrarySteps host h w.library (w.taken host h).library := w.taken_steps h
    cases drainResults_outcome host hrun with
    | last => exact htaken
    | stopped => exact htaken.tail (.nextResult ..)
    | advanced more status rest => exact (htaken.tail (.nextResult ..)).trans (ih rest)

/-- The library after the result loop of a query. -/
theorem World.drained_steps {i : Fin maxConnections} {rSet : Option MysqlRes}
    (hrun : (drainResults host (w.handle i) turns).run ((w.sent host i q).used host i) = .ok (rSet, w')) :
    LibrarySteps host (w.handle i) w.library w'.library := by
  have hused : LibrarySteps host (w.handle i) w.library ((w.sent host i q).used host i).library := by
    rw [World.used, World.sent_handle]
    exact (w.sent_steps i q).tail (.useResult ..)
  exact hused.trans (MqlMySql.drained_steps hrun)

/-- `MySqlExecute` on a slot calls the library on the handle of that slot. -/
theorem QueryOutcome.steps {i : Fin maxConnections} {b : Bool} (h : QueryOutcome host i.val q w b w') :
    LibrarySteps host (w.handle i) w.library w'.library := by
  rw [h.library]
  split
  · exact w.sent_steps i q
  · exact .refl

/-- `MySqlExecute` moves the library on the handle which its number names, if any. -/
theorem QueryOutcome.libraryMove {b : Bool} (h : QueryOutcome host p q w b w') :
    LibraryMove host (p = ·.val) w w' := by
  cases h with
  | noConnection => exact .kept rfl
  | tooBig => exact .kept rfl
  | pending i hp => exact .commanded i hp (w.sent_steps i q)
  | executed i hp => exact .commanded i hp (w.sent_steps i q)

/-- `cMySqlExecute` moves the library on the handle which its number names, if any. -/
theorem ExecuteOutcome.libraryMove {b : Bool} (h : ExecuteOutcome host turns p q w b w') :
    LibraryMove host (p = ·.val) w w' := by
  cases h with
  | rejected query => exact query.libraryMove
  | failed i hp fits quiet drained => exact .commanded i hp ((World.drained_steps drained).tail (.freeResult ..))
  | succeeded i hp fits quiet drained =>
    exact .commanded i hp ((World.drained_steps drained).tail (.freeResult ..))

/-- The first half of an opening calls the library on the handle of its connection. -/
theorem StoreOutcome.steps {i : Fin maxConnections} {k : Fin maxCursors} {rs : Option MysqlRes}
    (h : StoreOutcome host i q k w rs w') : LibrarySteps host (w.handle i) w.library w'.library := by
  cases h with
  | rejected query => simpa using query.steps
  | stored =>
    simp only [World.onDll_library, World.performed_library, World.opening_sent_library]
    exact (w.sent_steps i q).tail (.storeResult ..)

/-- `cMySqlCursorOpen` moves the library on the handle which its number names, if any. -/
theorem OpenOutcome.libraryMove {r : ℤ} (h : OpenOutcome host p q w r w') :
    LibraryMove host (p = ·.val) w w' := by
  cases h with
  | noConnection => exact .kept rfl
  | full => exact .kept rfl
  | opened i hp k free res store => exact .commanded i hp store.steps
  | refused i hp k free store =>
    refine .commanded i hp ?_
    simpa [World.blamed] using store.steps
  | undecided i hp k free store => exact .commanded i hp store.steps

/-- Asking for a connection works on the handle which the library has just allocated. -/
theorem World.asked_steps (c : Credentials) {mysql : Mysql} (w : World σ)
    (allocated : (host.mysqlInit w.library).1 = some mysql) :
    LibrarySteps host (some mysql) w.library (w.asked host c mysql).library := by
  have hinit : LibraryStep host (some mysql) w.library (host.mysqlInit w.library).2 := by
    rw [← allocated]
    exact .init _
  exact (Relation.ReflTransGen.single hinit).tail (.realConnect ..)

/-- `cMySqlConnect` moves the library on a fresh handle, whatever names are given. -/
theorem ConnectOutcome.libraryMove {c : Credentials} {r : ℤ} {names : Fin maxConnections → Prop}
    (h : ConnectOutcome host c w r w') : LibraryMove host names w w' := by
  cases h with
  | full => exact .kept rfl
  | unallocated answer =>
    apply LibraryMove.released
    rw [← answer]
    exact .single (.init _)
  | refused i free mysql allocated answer =>
    refine .allocated (some mysql) ?_ (w.asked_steps c allocated)
    simp [World.lifecycle, List.filter_cons, LibraryCall.isLifecycle, World.asked, allocated]
  | connected i free mysql allocated answer =>
    refine .allocated (some mysql) ?_ (w.asked_steps c allocated)
    simp [World.lifecycle, List.filter_cons, LibraryCall.isLifecycle, World.asked, allocated]

/-- Fetching a row works on no handle. -/
theorem World.fetched_steps (k : Fin maxCursors) (w : World σ) :
    LibrarySteps host none w.library (w.fetched host k).library := by
  have hfetched : (w.fetched host k).library = (host.mysqlFetchRow (w.recordSet k) w.library).2 := by
    simp [World.fetched]
  rw [hfetched]
  exact .single (.fetchRow ..)

/-- Every call moves the library by functions on a handle of its own. -/
theorem call_libraryMove {e : Exported} {r : e.Reply} (h : (call host turns e).run w = .ok (r, w')) :
    LibraryMove host (NamesConnection · e) w w' := by
  cases e with
  | connect c => exact (cMySqlConnect_outcome host h).libraryMove
  | disconnect p =>
    cases cMySqlDisconnect_outcome host h with
    | dead => exact .kept rfl
    | closed i hp => exact .commanded i hp (.single (.close ..))
  | execute p q => exact (cMySqlExecute_outcome host h).libraryMove
  | cursorOpen p q => exact (cMySqlCursorOpen_outcome host h).libraryMove
  | cursorClose p =>
    cases cMySqlCursorClose_outcome host h with
    | wrong => exact .kept rfl
    | closed k => exact .released (.single (.freeResult ..))
  | cursorRows p => cases cMySqlCursorRows_outcome host h <;> exact .kept rfl
  | cursorFetchRow p =>
    cases cMySqlCursorFetchRow_outcome host h with
    | wrong => exact .kept rfl
    | fetched k => exact .released (w.fetched_steps k)
    | ended k => exact .released (by simpa using w.fetched_steps k)
  | getRowField p f => cases cMySqlGetRowField_outcome host h <;> exact .kept (by simp [World.measured])
  | rowsAffected p => cases cMySqlRowsAffected_outcome host h <;> exact .kept rfl
  | getMySqlErrorNumber p | getMySqlErrorDescription p | getCursorErrorNumber p
  | getCursorErrorDescription p =>
    cases h
    exact .kept rfl

end Steps

/-- The connection id passed to a call is `-1` or live. -/
def OnKnownId (d : Dll) : Exported → Prop
  | .disconnect p | .execute p _ | .cursorOpen p _ | .rowsAffected p => p = -1 ∨ d.liveConnection p ≠ none
  | .getMySqlErrorNumber p | .getMySqlErrorDescription p => p = -1 ∨ d.liveConnection p ≠ none
  | _ => True

instance (d : Dll) : (e : Exported) → Decidable (OnKnownId d e)
  | .disconnect _ | .execute _ _ | .cursorOpen _ _ | .rowsAffected _ => inferInstanceAs (Decidable (_ ∨ _))
  | .getMySqlErrorNumber _ | .getMySqlErrorDescription _ => inferInstanceAs (Decidable (_ ∨ _))
  | .connect _ | .cursorClose _ | .cursorRows _ | .cursorFetchRow _ | .getRowField _ _
  | .getCursorErrorNumber _ | .getCursorErrorDescription _ => isTrue trivial

/-- A connection which is named by its known id is live. -/
theorem OnKnownId.live {d : Dll} {e : Exported} {i : Fin maxConnections} (h : OnKnownId d e)
    (names : NamesConnection i e) : (d.connections i).id ≠ -1 := by
  have hlive {p : ℤ} (hp : p = i.val) (known : p = -1 ∨ d.liveConnection p ≠ none) :
      (d.connections i).id ≠ -1 := by
    subst hp
    simpa [val_ne_neg_one, liveConnection_val] using known
  cases e with
  | disconnect p => exact hlive names h
  | execute p q => exact hlive names h
  | cursorOpen p q => exact hlive names h
  | _ => exact names.elim

/-- A library function changes `mysql_errno` of no other handle than the one which it works on. -/
def KeepsErrnos (host : Host σ) : Prop :=
  ∀ h s s', LibraryStep host h s s' → ∀ m, h ≠ some m →
    host.mysqlErrno (some m) s' = host.mysqlErrno (some m) s

section Errnos

variable (keeps : KeepsErrnos host)
include keeps

/-- Steps on one handle keep the number of every other, as each of them does. -/
theorem LibrarySteps.errno_eq {h : Option Mysql} {s s' : σ} (steps : LibrarySteps host h s s') {m : Mysql}
    (other : h ≠ some m) : host.mysqlErrno (some m) s' = host.mysqlErrno (some m) s := by
  induction steps with
  | refl => rfl
  | tail _ step ih => rw [keeps _ _ _ step m other, ih]

/-- A call on known ids leaves `mysql_errno` of a live connection which it does not name. -/
theorem call_keeps_errno {turns : ℕ} {e : Exported} {r : e.Reply} {w w' : World σ}
    (h : (call host turns e).run w = .ok (r, w')) (owns : OwnsHandles w) (fresh : FreshHandles w'.lifecycle)
    (known : OnKnownId w.dll e) {i : Fin maxConnections} {m : Mysql}
    (live : w.registry.connections i = some (some m)) (names : ¬NamesConnection i e) :
    host.mysqlErrno (some m) w'.library = host.mysqlErrno (some m) w.library := by
  cases call_libraryMove h with
  | released steps => exact LibrarySteps.errno_eq keeps steps (by simp)
  | allocated g lifecycle steps =>
    apply LibrarySteps.errno_eq keeps steps
    rintro rfl
    obtain ⟨m', hm', hallocated⟩ := owns.allocated i _ live
    cases hm'
    rw [lifecycle] at fresh
    exact fresh.1 hallocated
  | commanded j named steps =>
    apply LibrarySteps.errno_eq keeps steps
    intro hsame
    have hj : w.registry.connections j = some (some m) := by
      simp [World.registry, Dll.registry, known.live named, ← hsame, World.handle]
    obtain rfl := owns.distinct i j _ live hj
    exact names named

end Errnos

end MqlMySql
