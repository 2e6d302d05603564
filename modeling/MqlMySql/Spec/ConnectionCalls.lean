import MqlMySql.Spec.Cells

/-!
# What the connection calls can do

One outcome type for each function of `MqlMySql.Model.ConnectionCalls`: its constructors are the ways
the function returns, each with the condition that selects it and the resulting world. Every later
fact about these functions is read off its outcome, so their code is taken apart only here.
-/

namespace MqlMySql

open Library

variable {σ : Type} (host : Host σ)

/-- The query and its terminator fit into the buffer `Query`. -/
def QueryFits (q : WStr) : Prop := (wideCharToMultiByte q).length < maxQuerySize

instance (q : WStr) : Decidable (QueryFits q) := inferInstanceAs (Decidable (_ < _))

/-- The bytes handed to `mysql_real_query`. -/
def sentQuery (q : WStr) : List UInt8 := cString (wideCharToMultiByte q)

/-- The arguments of `mysql_real_connect` when every copy succeeds. -/
def Credentials.request (c : Credentials) : ConnectRequest :=
  ⟨host.wcstombs c.pHost, host.wcstombs c.pUser, host.wcstombs c.pPassword,
    host.wcstombs c.pDatabase, c.pPort, host.wcstombs c.pSocket, c.pClientFlag⟩

/-- A copy which returns has copied the whole text and changed nothing else. -/
theorem run_sprintfS_ok {capacity size : ℕ} {text answer : List UInt8} {w w' : World σ}
    (h : (sprintfS capacity size text).run w = .ok (answer, w')) : answer = text ∧ w' = w := by
  unfold sprintfS at h
  split at h
  · simp at h
  · split at h
    · simp at h
    · simp only [StateT.run_pure, pure_eq_ok, Except.ok.injEq, Prod.mk.injEq] at h
      exact ⟨h.1.symm, h.2.symm⟩

/-- The copies which return have built the whole request and changed nothing else. -/
theorem run_copyCredentials_ok {c : Credentials} {request : ConnectRequest} {w w' : World σ}
    (h : (copyCredentials host c).run w = .ok (request, w')) : request = c.request host ∧ w' = w := by
  simp only [copyCredentials, run_bind_eq_ok_iff] at h
  obtain ⟨xHost, w₁, h₁, xUser, w₂, h₂, xPassword, w₃, h₃, xDatabase, w₄, h₄, xSocket, w₅, h₅, h⟩ := h
  obtain ⟨rfl, rfl⟩ := run_sprintfS_ok h₁
  obtain ⟨rfl, rfl⟩ := run_sprintfS_ok h₂
  obtain ⟨rfl, rfl⟩ := run_sprintfS_ok h₃
  obtain ⟨rfl, rfl⟩ := run_sprintfS_ok h₄
  obtain ⟨rfl, rfl⟩ := run_sprintfS_ok h₅
  cases h
  exact ⟨rfl, rfl⟩

/-- The world after `mysql_init` and `mysql_real_connect`. -/
def World.asked (c : Credentials) (mysql : Mysql) (w : World σ) : World σ :=
  ((w.onDll (clearErrors (-1))).performed host.mysqlInit .init).performed
    (host.mysqlRealConnect mysql (c.request host)) (.realConnect mysql (c.request host))

/-- The answer of `mysql_real_connect`. -/
def World.connectAnswer (c : Credentials) (mysql : Mysql) (w : World σ) : Option Mysql :=
  (host.mysqlRealConnect mysql (c.request host) (host.mysqlInit w.library).2).1

/-- How `cMySqlConnect` returns. -/
inductive ConnectOutcome (c : Credentials) (w : World σ) : ℤ → World σ → Prop
  | full (none_free : getNewConnectionId w.dll = -1) :
      ConnectOutcome c w (-1) (w.onDll fun d =>
        (clearErrors (-1) d).setMySqlError (-3) "Maximum connections exceeded.")
  | unallocated (answer : (host.mysqlInit w.library).1 = none) :
      ConnectOutcome c w (-1) (((w.onDll (clearErrors (-1))).performed host.mysqlInit .init).onDll
        (·.setMySqlError (-1) "Cannot allocate memory for connection."))
  | refused (i : Fin maxConnections) (free : getNewConnectionId w.dll = i.val) (mysql : Mysql)
      (allocated : (host.mysqlInit w.library).1 = some mysql)
      (answer : w.connectAnswer host c mysql ≠ some mysql) :
      ConnectOutcome c w (-1)
        (((((w.asked host c mysql).onDll (·.setConnection i fun slot =>
            { slot with connection := w.connectAnswer host c mysql })).inspected
          (.errno (some mysql))).inspected (.error (some mysql))).onDll
            (·.setMySqlError (host.mysqlErrno (some mysql) (w.asked host c mysql).library)
              (host.mysqlError (some mysql) (w.asked host c mysql).library)))
  | connected (i : Fin maxConnections) (free : getNewConnectionId w.dll = i.val) (mysql : Mysql)
      (allocated : (host.mysqlInit w.library).1 = some mysql)
      (answer : w.connectAnswer host c mysql = some mysql) :
      ConnectOutcome c w i.val (((w.asked host c mysql).onDll
        (·.setConnection i fun slot => { slot with connection := some mysql })).onDll
          (·.setConnection i fun slot => { slot with id := i.val }))

/-- `cMySqlConnect` ends in one of these ways. -/
theorem cMySqlConnect_outcome {c : Credentials} {w w' : World σ} {r : ℤ}
    (h : (cMySqlConnect host c).run w = .ok (r, w')) : ConnectOutcome host c w r w' := by
  have hsame : getNewConnectionId (w.dll.setMySqlError 0 "No errors.") = getNewConnectionId w.dll :=
    getNewConnectionId_congr fun _ => rfl
  rcases getNewConnectionId_cases w.dll with hfull | ⟨i, hfree, -⟩
  · simp [cMySqlConnect, hsame, hfull] at h
    obtain ⟨rfl, rfl⟩ := h
    exact .full hfull
  · simp only [cMySqlConnect, StateT.run_bind, run_modifyDll, ok_bind, run_readDll,
      World.onDll_dll, clearErrors_neg_one, hsame, hfree, slotIndex_val] at h
    obtain ⟨⟨request, w₁⟩, hcopy, h⟩ := bind_eq_ok_iff.mp h
    obtain ⟨rfl, rfl⟩ := run_copyCredentials_ok host hcopy
    cases hinit : (host.mysqlInit w.library).1 with
    | none =>
      simp [hinit] at h
      obtain ⟨rfl, rfl⟩ := h
      exact .unallocated hinit
    | some mysql =>
      simp only [run_perform, ok_bind, World.onDll_library, hinit] at h
      by_cases hconn : w.connectAnswer host c mysql = some mysql
      · have hconn' := hconn
        unfold World.connectAnswer at hconn'
        simp [hconn'] at h
        obtain ⟨rfl, rfl⟩ := h
        exact .connected i hfree mysql hinit hconn
      · have hconn' := hconn
        unfold World.connectAnswer at hconn'
        simp [hconn'] at h
        obtain ⟨rfl, rfl⟩ := h
        exact .refused i hfree mysql hinit hconn

/-- How `cMySqlDisconnect` returns. -/
inductive DisconnectOutcome (p : ℤ) (w : World σ) : World σ → Prop
  | dead (dead : w.dll.liveConnection p = none) :
      DisconnectOutcome p w (w.onDll fun d => noConnection (clearErrors p d))
  | closed (i : Fin maxConnections) (hp : p = i.val) (live : (w.dll.connections i).id ≠ -1) :
      DisconnectOutcome p w (((w.onDll (clearErrors p)).commanded
        (host.mysqlClose (w.handle i)) (.close (w.handle i))).onDll (deleteConnection p))

/-- `cMySqlDisconnect` ends in one of these ways. -/
theorem cMySqlDisconnect_outcome {p : ℤ} {w w' : World σ}
    (h : (cMySqlDisconnect host p).run w = .ok ((), w')) : DisconnectOutcome host p w w' := by
  have hsame : (clearErrors p w.dll).liveConnection p = w.dll.liveConnection p :=
    liveConnection_congr (clearErrors_id w.dll p) p
  cases hlive : w.dll.liveConnection p with
  | none =>
    simp [cMySqlDisconnect, hsame, hlive] at h
    subst h
    exact .dead hlive
  | some i =>
    obtain ⟨rfl, hid⟩ := liveConnection_eq_some_iff.mp hlive
    simp only [cMySqlDisconnect, StateT.run_bind, run_modifyDll, ok_bind, run_readDll,
      World.onDll_dll, hsame, hlive, clearErrors_connection, run_command, Except.ok.injEq,
      Prod.mk.injEq, true_and] at h
    subst h
    exact .closed i rfl hid

/-- The world in which `MySqlExecute` tests the DLL-wide number: the query is sent and the slot's
number written. -/
def World.sent (i : Fin maxConnections) (q : WStr) (w : World σ) : World σ :=
  let w₁ := (w.onDll (clearErrors i.val)).performed
    (host.mysqlRealQuery (w.handle i) (sentQuery q) (sentQuery q).length)
    fun _ => .realQuery (w.handle i) (sentQuery q) (sentQuery q).length
  (w₁.inspected (.errno (w.handle i))).onDll fun d => d.setConnection i fun slot =>
    { slot with mySqlErrorNumber := host.mysqlErrno (w.handle i) w₁.library }

/-- Sending a query moves the library by `mysql_real_query` alone. -/
theorem World.sent_library (i : Fin maxConnections) (q : WStr) (w : World σ) :
    (w.sent host i q).library =
      (host.mysqlRealQuery (w.handle i) (sentQuery q) (sentQuery q).length w.library).2 := by
  simp only [World.sent, World.onDll_library, World.inspected_library, World.performed_library]

/-- The error number of the handle after the query was sent. -/
def World.sentErrno (i : Fin maxConnections) (q : WStr) (w : World σ) : ℕ :=
  host.mysqlErrno (w.handle i) (w.sent host i q).library

/-- Sending a query writes the error number of the handle into the slot. -/
theorem World.sent_number (i : Fin maxConnections) (q : WStr) (w : World σ) :
    ((w.sent host i q).dll.connections i).mySqlErrorNumber = w.sentErrno host i q := by
  simp [World.sent, World.sentErrno]

/-- How `MySqlExecute` returns. -/
inductive QueryOutcome (p : ℤ) (q : WStr) (w : World σ) : Bool → World σ → Prop
  | noConnection (hp : p = -1) :
      QueryOutcome p q w false (w.onDll fun d => noConnection (clearErrors p d))
  | tooBig (hp : p ≠ -1) (big : ¬ QueryFits q) :
      QueryOutcome p q w false
        (w.onDll fun d => (clearErrors p d).setMySqlError (-6) "Query is too big")
  | pending (i : Fin maxConnections) (hp : p = i.val) (fits : QueryFits q)
      (positive : 0 < w.dll.mySqlErrorNumber) :
      QueryOutcome p q w false
        (((w.sent host i q).inspected (.error (w.handle i))).onDll fun d =>
          d.setConnection i fun slot => { slot with
            mySqlErrorDescription := host.mysqlError (w.handle i) (w.sent host i q).library })
  | executed (i : Fin maxConnections) (hp : p = i.val) (fits : QueryFits q)
      (quiet : w.dll.mySqlErrorNumber ≤ 0) :
      QueryOutcome p q w true (w.sent host i q)

/-- `MySqlExecute` ends in one of these ways; the pending one is the test of the DLL-wide number. -/
theorem mySqlExecute_outcome {p : ℤ} {q : WStr} {b : Bool} {w w' : World σ}
    (h : (mySqlExecute host p q).run w = .ok (b, w')) : QueryOutcome host p q w b w' := by
  by_cases hp : p = -1
  · subst hp
    simp [mySqlExecute] at h
    obtain ⟨rfl, rfl⟩ := h
    exact .noConnection rfl
  by_cases hq : (wideCharToMultiByte q).length < maxQuerySize
  · cases hi : slotIndex maxConnections p with
    | none => simp [mySqlExecute, hp, hq, run_connectionAt_none hi] at h
    | some i =>
      obtain rfl := slotIndex_eq_some_iff.mp hi
      by_cases hn : 0 < w.dll.mySqlErrorNumber
      · simp [mySqlExecute, hp, hq, hn, Dll.setConnectionError] at h
        obtain ⟨rfl, rfl⟩ := h
        exact .pending i rfl hq hn
      · simp [mySqlExecute, hp, hq, hn, Dll.setConnectionError] at h
        obtain ⟨rfl, rfl⟩ := h
        exact .executed i rfl hq (not_lt.mp hn)
  · simp [mySqlExecute, hp, hq] at h
    obtain ⟨rfl, rfl⟩ := h
    exact .tooBig hp hq

end MqlMySql
