import MqlMySql.Spec.Procedures
import MqlMySql.Spec.Server
import MqlMySql.Spec.Touched

/-!
# What the wrappers report after connecting

Connecting takes two steps: `cMySqlConnect`, and `SET NAMES UTF8` on the new connection. When one of them fails,
both wrappers copy the DLL-wide error. The first step leaves its error there, but the second one leaves it in the
slot of the connection, and the DLL-wide number is `0` since the first.
-/

namespace MqlMySql

open Library

variable {σ : Type} (host : Host σ) (turns : ℕ) (c : Credentials) (w : World σ)

/-- How the two steps end: with the error number of the one which failed, if one did. -/
inductive StepsEnd : Option ℤ → Prop
  | unconnected {w' : World σ} (connect : (cMySqlConnect host c).run w = .ok (-1, w')) :
      StepsEnd (some (cGetMySqlErrorNumber (-1) w'.dll))
  | unnamed {p : ℤ} {w' w'' : World σ} (connect : (cMySqlConnect host c).run w = .ok (p, w'))
      (connected : p ≠ -1)
      (names : (cMySqlExecute host turns p (wide "SET NAMES UTF8")).run w' = .ok (false, w'')) :
      StepsEnd (some (cGetMySqlErrorNumber p w''.dll))
  | finished {p : ℤ} {w' w'' : World σ} (connect : (cMySqlConnect host c).run w = .ok (p, w'))
      (connected : p ≠ -1)
      (names : (cMySqlExecute host turns p (wide "SET NAMES UTF8")).run w' = .ok (true, w'')) :
      StepsEnd none

/-- The number is `0` exactly when both steps succeeded, and that of the step which failed otherwise. -/
def ReportsSteps (number : ℤ) : Prop :=
  ∀ failed, StepsEnd host turns c w failed → (number = 0 ↔ failed = none) ∧ ∀ n ∈ failed, number = n

/-- The world after a connect which was accepted. -/
def World.accepted (i : Fin maxConnections) (mysql : Mysql) : World σ :=
  ((w.asked host c mysql).onDll (·.setConnection i fun slot => { slot with connection := some mysql })).onDll
    (·.setConnection i fun slot => { slot with id := i.val })

/-- The world in which the result loop of `SET NAMES UTF8` starts. -/
def World.naming (i : Fin maxConnections) (mysql : Mysql) : World σ :=
  ((w.accepted host c i mysql).sent host i (wide "SET NAMES UTF8")).used host i

/-- No error of a step is lost: a refused connection has an error number, and on an accepted one there is none
when the results of `SET NAMES UTF8` have been taken. -/
def NoStepLost : Prop :=
  ∀ i : Fin maxConnections, getNewConnectionId w.dll = i.val →
    ∀ mysql, (host.mysqlInit w.library).1 = some mysql →
      if w.connectAnswer host c mysql = some mysql then
        ∀ rSet w₂, (drainResults host (some mysql) turns).run (w.naming host c i mysql) = .ok (rSet, w₂) →
          host.mysqlErrno (some mysql) w₂.library = 0
      else host.mysqlErrno (some mysql) (w.asked host c mysql).library ≠ 0

/-- The number which a wrapper copies after the steps. -/
inductive CopiedNumber : ℤ → Prop
  | unconnected {w' : World σ} (connect : (cMySqlConnect host c).run w = .ok (-1, w')) :
      CopiedNumber (cGetMySqlErrorNumber (-1) w'.dll)
  | unnamed {p : ℤ} {w' w'' : World σ} (connect : (cMySqlConnect host c).run w = .ok (p, w'))
      (connected : p ≠ -1)
      (names : (cMySqlExecute host turns p (wide "SET NAMES UTF8")).run w' = .ok (false, w'')) :
      CopiedNumber (cGetMySqlErrorNumber (-1) w''.dll)
  | finished {p : ℤ} {w' w'' : World σ} (connect : (cMySqlConnect host c).run w = .ok (p, w'))
      (connected : p ≠ -1)
      (names : (cMySqlExecute host turns p (wide "SET NAMES UTF8")).run w' = .ok (true, w'')) :
      CopiedNumber 0

variable {host turns c w}

/-- The steps end in one way. -/
theorem StepsEnd.unique {failed failed' : Option ℤ} (h : StepsEnd host turns c w failed)
    (h' : StepsEnd host turns c w failed') : failed = failed' := by
  cases h with
  | unconnected connect =>
    cases h' with
    | unconnected connect' =>
      cases connect.symm.trans connect'
      rfl
    | unnamed connect' connected =>
      cases connect.symm.trans connect'
      exact absurd rfl connected
    | finished connect' connected =>
      cases connect.symm.trans connect'
      exact absurd rfl connected
  | unnamed connect connected names =>
    cases h' with
    | unconnected connect' =>
      cases connect.symm.trans connect'
      exact absurd rfl connected
    | unnamed connect' _ names' =>
      cases connect.symm.trans connect'
      cases names.symm.trans names'
      rfl
    | finished connect' _ names' =>
      cases connect.symm.trans connect'
      cases names.symm.trans names'
  | finished connect connected names =>
    cases h' with
    | unconnected connect' =>
      cases connect.symm.trans connect'
      exact absurd rfl connected
    | unnamed connect' _ names' =>
      cases connect.symm.trans connect'
      cases names.symm.trans names'
    | finished => rfl

theorem reportsSteps_iff {failed : Option ℤ} (h : StepsEnd host turns c w failed) {number : ℤ} :
    ReportsSteps host turns c w number ↔ (number = 0 ↔ failed = none) ∧ ∀ n ∈ failed, number = n := by
  constructor
  · intro hreports
    exact hreports failed h
  · intro hnumber failed' h'
    rwa [← h.unique h']

/-- Setting the names ends with the error number of the new connection. -/
theorem names_cases {i : Fin maxConnections} {mysql : Mysql} {b : Bool} {w'' : World σ}
    (h : (cMySqlExecute host turns i.val (wide "SET NAMES UTF8")).run (w.accepted host c i mysql) =
      .ok (b, w'')) :
    w''.dll.mySqlErrorNumber = 0 ∧ ∃ rSet w₂,
      (drainResults host (some mysql) turns).run (w.naming host c i mysql) = .ok (rSet, w₂) ∧
        (b = true ↔ host.mysqlErrno (some mysql) w₂.library = 0) := by
  have hfits : QueryFits (wide "SET NAMES UTF8") := by decide
  have hquiet : (w.accepted host c i mysql).dll.mySqlErrorNumber = 0 := by
    simp [World.accepted, World.asked]
  have hhandle : (w.accepted host c i mysql).handle i = some mysql := by
    simp [World.accepted]
  have hnumber := (cMySqlExecute_outcome host h).number_wide
  rw [if_neg (by simp [val_ne_neg_one, hfits]), hquiet] at hnumber
  refine ⟨hnumber, ?_⟩
  cases cMySqlExecute_outcome host h with
  | rejected query =>
    cases query with
    | noConnection hp => exact absurd hp (val_ne_neg_one i)
    | tooBig _ big => exact absurd hfits big
    | pending _ _ _ positive => omega
  | @failed j hp _ _ rSet w₂ drained positive =>
    obtain rfl : i = j := Fin.ext (by omega)
    rw [hhandle] at drained positive
    refine ⟨rSet, w₂, drained, iff_of_false (by simp) ?_⟩
    omega
  | @succeeded j hp _ _ rSet w₂ drained zero =>
    obtain rfl : i = j := Fin.ext (by omega)
    rw [hhandle] at drained zero
    exact ⟨rSet, w₂, drained, iff_of_true rfl zero⟩

/-- The number which a wrapper copies reports the steps exactly when no error of a step is lost. -/
theorem CopiedNumber.reports_iff {number : ℤ} (h : CopiedNumber host turns c w number) :
    ReportsSteps host turns c w number ↔ NoStepLost host turns c w := by
  cases h with
  | unconnected connect =>
    rw [reportsSteps_iff (.unconnected connect), cGetMySqlErrorNumber_of_dead liveConnection_neg_one]
    generalize hr : (-1 : ℤ) = r at connect
    cases cMySqlConnect_outcome host connect with
    | full none_free => simp [NoStepLost, none_free, (val_ne_neg_one _).symm]
    | unallocated answer => simp [NoStepLost, answer]
    | refused i free mysql allocated answer =>
      simp only [NoStepLost, free, forall_slot_iff, allocated, Option.some.injEq, forall_eq', if_neg answer]
      simp
    | connected i => exact absurd hr.symm (val_ne_neg_one i)
  | unnamed connect connected names =>
    rw [reportsSteps_iff (.unnamed connect connected names),
      cGetMySqlErrorNumber_of_dead liveConnection_neg_one]
    cases cMySqlConnect_outcome host connect with
    | full | unallocated | refused => exact absurd rfl connected
    | connected i free mysql allocated answer =>
      obtain ⟨hnumber, rSet, w₂, hdrain, herrno⟩ := names_cases names
      apply iff_of_false
      · simp [hnumber]
      · intro hlost
        have hzero := hlost i free mysql allocated
        rw [if_pos answer] at hzero
        cases herrno.mpr (hzero rSet w₂ hdrain)
  | finished connect connected names =>
    rw [reportsSteps_iff (.finished connect connected names)]
    cases cMySqlConnect_outcome host connect with
    | full | unallocated | refused => exact absurd rfl connected
    | connected i free mysql allocated answer =>
      obtain ⟨-, rSet, w₂, hdrain, herrno⟩ := names_cases names
      apply iff_of_true
      · simp
      · simp only [NoStepLost, free, forall_slot_iff, allocated, Option.some.injEq, forall_eq', if_pos answer]
        intro rSet' w₂' hdrain'
        cases hdrain.symm.trans hdrain'
        exact herrno.mp rfl

/-- A run of the two steps copies their number when each of its ends does. -/
theorem CopiedNumber.of_steps {R : Type} (number : R → ℤ) {refused finished unnamed : ℤ → World σ → R}
    (hrefused : ∀ p w', number (refused p w') = cGetMySqlErrorNumber (-1) w'.dll)
    (hfinished : ∀ p w', number (finished p w') = 0)
    (hunnamed : ∀ p w', number (unnamed p w') = cGetMySqlErrorNumber (-1) w'.dll) {x : R} {w' : World σ}
    (h : (match (cMySqlConnect host c).run w with
      | .error fault => .error fault
      | .ok (p, w') =>
        if p = -1 then .ok (refused p w', w')
        else
          match (cMySqlExecute host turns p (wide "SET NAMES UTF8")).run w' with
          | .error fault => .error fault
          | .ok (true, w'') => .ok (finished p w'', w'')
          | .ok (false, w'') => .ok (unnamed p w'', w'')) = Except.ok (x, w')) :
    CopiedNumber host turns c w (number x) := by
  split at h
  · cases h
  · rename_i p w₁ hconnect
    split at h
    · rename_i hp
      subst hp
      cases h
      rw [hrefused]
      exact .unconnected hconnect
    · rename_i hp
      split at h
      · cases h
      · rename_i hnames
        cases h
        rw [hfinished]
        exact .finished hconnect hp hnames
      · rename_i hnames
        cases h
        rw [hunnamed]
        exact .unnamed hconnect hp hnames

/-- `Connect` with credentials and without a connection copies the number of the steps. -/
theorem CMySQL.connect_copies {this this' : CMySQL} {b : Bool} {w' : World σ}
    (credentials : this.credentials = some c) (unconnected : ¬0 ≤ this.connectID)
    (h : this.connect.run (dllStep host turns) w = .ok ((b, this'), w')) :
    CopiedNumber host turns c w this'.mySqlErrorNumber := by
  rw [CMySQL.run_connect_eq credentials unconnected] at h
  exact CopiedNumber.of_steps (fun result : Bool × CMySQL => result.2.mySqlErrorNumber)
    (fun _ _ => rfl) (fun _ _ => rfl) (fun _ _ => rfl) h

/-- `MySqlConnect` copies it likewise. -/
theorem Globals.mySqlConnect_copies {globals : Globals} {r : ℤ} {w' : World σ}
    (h : (Globals.mySqlConnect c).run (dllStep host turns) w = .ok ((r, globals), w')) :
    CopiedNumber host turns c w globals.mySqlErrorNumber := by
  rw [Globals.run_mySqlConnect] at h
  exact CopiedNumber.of_steps (fun result : ℤ × Globals => result.2.mySqlErrorNumber)
    (fun _ _ => rfl) (fun _ _ => rfl) (fun _ _ => rfl) h

/-- After `CMySQL::Connect` with credentials and without a connection, and after `MySqlConnect`, the error number of
the wrapper is `0` exactly when both steps succeeded, and that of the step which failed otherwise, exactly when no
error of a step is lost. -/
theorem connect_reports_iff (host : Host σ) (turns : ℕ) (c : Credentials) (w : World σ) :
    (∀ (this : CMySQL) (b : Bool) (this' : CMySQL) (w' : World σ), this.credentials = some c →
      ¬0 ≤ this.connectID → this.connect.run (dllStep host turns) w = .ok ((b, this'), w') →
        (ReportsSteps host turns c w this'.mySqlErrorNumber ↔ NoStepLost host turns c w)) ∧
      ∀ (r : ℤ) (globals : Globals) (w' : World σ),
        (Globals.mySqlConnect c).run (dllStep host turns) w = .ok ((r, globals), w') →
          (ReportsSteps host turns c w globals.mySqlErrorNumber ↔ NoStepLost host turns c w) := by
  constructor
  · intro this b this' w' credentials unconnected h
    exact (CMySQL.connect_copies credentials unconnected h).reports_iff
  · intro r globals w' h
    exact (Globals.mySqlConnect_copies h).reports_iff

/-- An object which has credentials and is not connected. -/
def CMySQL.sample : CMySQL := ⟨0, "", -1, some .sample⟩

/-- A connect after others, one of which was refused. -/
theorem connect_reports_sample :
    ∃ (tr : List (Called Server)) (w w' : World Server) (b : Bool) (this : CMySQL),
      DllRun scriptedHost 8 (Server.fresh []) tr w ∧
        CMySQL.sample.connect.run (dllStep scriptedHost 8) w = .ok ((b, this), w') ∧ this.connectID = 1 ∧
          (ReportsSteps scriptedHost 8 .sample w this.mySqlErrorNumber ↔ NoStepLost scriptedHost 8 .sample w) := by
  have hcheck : passes (fun run => passes (fun result => decide (result.1.2.connectID = 1))
        (CMySQL.sample.connect.run (dllStep scriptedHost 8) run.2))
      (replay (dllStep scriptedHost 8) [.connect .sample, .connect .anonymous] (attach (Server.fresh []))) = true := by
    decide +kernel
  obtain ⟨tr, w, hrun, hcheck⟩ := Run.of_passes hcheck
  obtain ⟨⟨⟨b, this⟩, w'⟩, hconnect, hid⟩ := exists_of_passes hcheck
  exact ⟨tr, w, w', b, this, hrun, hconnect, of_decide_eq_true hid,
    (connect_reports_iff scriptedHost 8 .sample w).1 _ b this w' rfl (by decide) hconnect⟩

/-- The connection is accepted and `SET NAMES UTF8` is rejected with error 1064, and both wrappers report `0`. -/
theorem refusedNames_unreported :
    (∃ (b : Bool) (this : CMySQL) (w' : World Server),
      CMySQL.sample.connect.run (dllStep scriptedHost 8) (attach (Server.fresh [.ofError 1064])) =
          .ok ((b, this), w') ∧
        ¬ReportsSteps scriptedHost 8 .sample (attach (Server.fresh [.ofError 1064])) this.mySqlErrorNumber) ∧
      ∃ (r : ℤ) (globals : Globals) (w' : World Server),
        (Globals.mySqlConnect .sample).run (dllStep scriptedHost 8) (attach (Server.fresh [.ofError 1064])) =
            .ok ((r, globals), w') ∧
          ¬ReportsSteps scriptedHost 8 .sample (attach (Server.fresh [.ofError 1064]))
            globals.mySqlErrorNumber := by
  have hsteps : passes (fun connected => connected.1 = 0 ∧
      passes (fun names => names.1 = false)
        ((cMySqlExecute scriptedHost 8 0 (wide "SET NAMES UTF8")).run connected.2))
      ((cMySqlConnect scriptedHost .sample).run (attach (Server.fresh [.ofError 1064]))) = true := by
    decide +kernel
  have hobject : passes (fun result => result.1.2.mySqlErrorNumber = 0)
      (CMySQL.sample.connect.run (dllStep scriptedHost 8) (attach (Server.fresh [.ofError 1064]))) = true := by
    decide +kernel
  have hprocedural : passes (fun result => result.1.2.mySqlErrorNumber = 0)
      ((Globals.mySqlConnect .sample).run (dllStep scriptedHost 8) (attach (Server.fresh [.ofError 1064]))) =
        true := by
    decide +kernel
  obtain ⟨⟨p, w₁⟩, hconnect, hnamed⟩ := exists_of_passes hsteps
  obtain ⟨rfl, hnames⟩ := of_decide_eq_true hnamed
  obtain ⟨⟨accepted, w₂⟩, hnames, hrefused⟩ := exists_of_passes hnames
  obtain rfl : accepted = false := of_decide_eq_true hrefused
  have hfailed : ¬ReportsSteps scriptedHost 8 .sample (attach (Server.fresh [.ofError 1064])) 0 := by
    intro hreports
    obtain ⟨hzero, -⟩ := hreports _ (.unnamed hconnect (by decide) hnames)
    cases hzero.mp rfl
  obtain ⟨⟨⟨b, this⟩, w'⟩, hrun, hnumber⟩ := exists_of_passes hobject
  obtain ⟨⟨⟨r, globals⟩, w''⟩, hrun', hnumber'⟩ := exists_of_passes hprocedural
  have hnumber : this.mySqlErrorNumber = 0 := of_decide_eq_true hnumber
  have hnumber' : globals.mySqlErrorNumber = 0 := of_decide_eq_true hnumber'
  refine ⟨⟨b, this, w', hrun, ?_⟩, r, globals, w'', hrun', ?_⟩
  · rwa [hnumber]
  · rwa [hnumber']

end MqlMySql
