import MqlMySql.Spec.Server
import MqlMySql.Spec.Shadows

/-!
# Two clients which share the DLL

When the calls of both clients are proper, each client sees the same as if the other made no calls. Without this
neither client can rely on the error numbers which it reads.
-/

namespace MqlMySql

open Library

variable {σ : Type}

section Clients

variable {host : Party → Host σ} {turns : ℕ} {plan : Party → Plan} {library : Party → σ} {rival : Party → Rival}

/-- The client has a run without the other in which it goes on seeing the same. -/
def Shadowed (host : Party → Host σ) (turns : ℕ) (plan : Party → Plan) (library : Party → σ)
    (tr : List (Stepped σ)) (t : Terminal σ) (S : Party → Pairs) (x : Party) : Prop :=
  ∃ tr' t', TerminalRun host turns plan library tr' t' ∧
    tr'.map (·.label) = (tr.map (·.label)).filter (· = x) ∧ Shadow (S x) (marksOf tr) x t t'

/-- Both clients have runs of their own, and hold no slots in common. -/
structure Separate (host : Party → Host σ) (turns : ℕ) (plan : Party → Plan) (library : Party → σ)
    (rival : Party → Rival) (tr : List (Stepped σ)) (t : Terminal σ) (S : Party → Pairs) : Prop where
  rivals : ∀ x, (S x).rival = rival x
  shadowed : ∀ x, Shadowed host turns plan library tr t S x
  apart : ∀ x y, x ≠ y → Apart (S x) (S y)

/-- At attach nothing is known, and the marks of both parties are blank. -/
theorem Separate.start (host : Party → Host σ) (turns : ℕ) (plan : Party → Plan) (library : Party → σ)
    (rival : Party → Rival) :
    Separate host turns plan library rival [] (Terminal.start plan library) fun x => Pairs.none (rival x) where
  rivals := fun _ => rfl
  shadowed := fun x => ⟨[], _, Run.nil _, rfl, Shadow.start plan library (rival x) x⟩
  apart := fun _ _ _ => ⟨fun _ _ => rfl, fun _ _ => rfl, fun _ _ => rfl, fun _ _ => rfl⟩

/-- A proper step keeps the clients separate. -/
theorem Separate.step {tr : List (Stepped σ)} {z : Stepped σ} {S : Party → Pairs}
    (inv : Separate host turns plan library rival tr z.before S) (room : RoomAt z.before z.label)
    (known : KnownAt host turns rival z.before z.label)
    (proper : ProperAt host tr (rival z.label) z.before z.label)
    (h : terminalStep host turns plan z.label z.before = .ok (z.reply, z.after)) :
    ∃ S, Separate host turns plan library rival (tr ++ [z]) z.after S := by
  obtain ⟨hrivals, hshadowed, hapart⟩ := inv
  obtain ⟨t, x, u, t₁⟩ := z
  dsimp only at room known proper h hshadowed ⊢
  obtain ⟨tr', t', hrun', hlabels, shadow⟩ := hshadowed x
  rw [← hrivals x] at proper
  obtain ⟨t₁', S', hstep', shadow', hgrows⟩ := shadow.own h room proper
  have hnew : ∀ y, y ≠ x → Apart S' (S y) ∧ Apart (S y) S' := by
    intro y hyx
    obtain ⟨-, t₂, -, -, shadow₂⟩ := hshadowed y
    exact (hapart x y hyx.symm).of_grows (hapart y x hyx) hgrows shadow₂ (hrivals y) known hyx
  refine ⟨Function.update S x S', ?_, ?_, ?_⟩
  · intro y
    by_cases hyx : y = x
    · subst hyx
      rw [Function.update_self, hgrows.rival, hrivals]
    · rw [Function.update_of_ne hyx, hrivals]
  · intro y
    rw [Shadowed, marksOf_snoc]
    by_cases hyx : y = x
    · subst hyx
      refine ⟨tr' ++ [⟨t', y, (), t₁'⟩], t₁', hrun'.append (Run.cons hstep' (Run.nil _)), by simp [hlabels], ?_⟩
      rw [Function.update_self]
      exact shadow'
    · obtain ⟨tr₂, t₂, hrun₂, hlabels₂, shadow₂⟩ := hshadowed y
      refine ⟨tr₂, t₂, hrun₂, by simp [hlabels₂, Ne.symm hyx], ?_⟩
      rw [Function.update_of_ne hyx]
      exact shadow₂.other (Ne.symm hyx) h (hrivals y) known shadow (hapart x y (Ne.symm hyx)) (hapart y x hyx)
  · intro y z hyz
    by_cases hyx : y = x
    · subst hyx
      rw [Function.update_self, Function.update_of_ne hyz.symm]
      exact (hnew z hyz.symm).1
    · rw [Function.update_of_ne hyx]
      by_cases hzx : z = x
      · subst hzx
        rw [Function.update_self]
        exact (hnew y hyx).2
      · rw [Function.update_of_ne hzx]
        exact hapart y z hyz

/-- The client sees the same as if the other made no calls: the run which takes the same turns of this client
only goes through, and its operations end with the same values and error numbers. -/
def SeesAlone (host : Party → Host σ) (turns : ℕ) (plan : Party → Plan) (library : Party → σ)
    (tr : List (Stepped σ)) (t : Terminal σ) (x : Party) : Prop :=
  ∃ tr' t', TerminalRun host turns plan library tr' t' ∧
    tr'.map (·.label) = (tr.map (·.label)).filter (· = x) ∧ (t'.session x).seen = (t.session x).seen

/-- What the other clients do in the run. -/
def rivalOf (host : Party → Host σ) (turns : ℕ) (tr : List (Stepped σ)) (x : Party) : Rival where
  connects := ∃ z ∈ tr, z.label ≠ x ∧ ConnectsAt z.before z.label
  opens := ∃ z ∈ tr, z.label ≠ x ∧ OpensAt host turns z.before z.label

/-- What the other does on a run is known at each of its steps. -/
theorem knownAt_rivalOf {tr : List (Stepped σ)} {z : Stepped σ} (hz : z ∈ tr) :
    KnownAt host turns (rivalOf host turns tr) z.before z.label where
  connects := fun h _ hne => ⟨z, hz, hne.symm, h⟩
  opens := fun h _ hne => ⟨z, hz, hne.symm, h⟩

/-- The DLL-wide numbers are those which the client left there. -/
def OwnNumbers (x : Party) (tr : List (Stepped σ)) (t : Terminal σ) : Prop :=
  t.dll.mySqlErrorNumber = (marksOf tr).number x ∧ t.dll.cursorErrorNumber = (marksOf tr).cursorNumber x

/-- The client makes the next call of a step, if there is one. -/
def CallsOnly (x : Party) (t : Terminal σ) (y : Party) : Prop := y ≠ x → (t.session y).nextCall = none

/-- When only one party calls, the numbers which it reads stay its own. -/
theorem OwnNumbers.step {x : Party} {past : List (Stepped σ)} {z : Stepped σ}
    (own : OwnNumbers x past z.before) (only : CallsOnly x z.before z.label)
    (h : terminalStep host turns plan z.label z.before = .ok (z.reply, z.after)) :
    OwnNumbers x (past ++ [z]) z.after := by
  obtain ⟨t, y, u, t₁⟩ := z
  rw [OwnNumbers, marksOf_snoc]
  dsimp only at own only h ⊢
  rcases terminalStep_cases h with ⟨hidle, rfl⟩ | ⟨finished, objects, hdone, rfl⟩ |
    ⟨e, rest, r, w, hcall, hrun, rfl⟩
  · rw [Marks.after_silent _ (by rw [Session.nextCall, hidle])]
    exact own
  · rw [Marks.after_silent _ (by rw [Session.nextCall, hdone])]
    exact own
  · have hnext : (t.session y).nextCall = some e := by rw [Session.nextCall, hcall]
    obtain rfl : y = x := by
      by_contra hyx
      rw [only hyx] at hnext
      cases hnext
    rw [Marks.after_call _ hnext]
    exact Marks.own_note hrun own

/-- Nothing is asked of a run in which the other client makes no calls. -/
theorem proper_alone {past future : List (Stepped σ)} {z : Stepped σ} {t : Terminal σ}
    (h : TerminalRun host turns plan library (past ++ z :: future) t) {x : Party}
    (only : ∀ y ∈ past ++ z :: future, CallsOnly x y.before y.label) :
    ProperAt host past (rivalOf host turns (past ++ z :: future) z.label) z.before z.label := by
  intro e he
  obtain rfl : z.label = x := by
    by_contra hne
    rw [only z (by simp) hne] at he
    cases he
  obtain ⟨hnumber, hcursorNumber⟩ : OwnNumbers z.label past z.before :=
    h.split_at.1.preserves_history (fun _ _ => OwnNumbers.step) ⟨rfl, rfl⟩ fun y hy => only y (by simp [hy])
  refine ⟨?_, ?_, ?_, ?_⟩
  · cases e with
    | execute | cursorOpen => exact fun _ _ => by rw [← hnumber]; rfl
    | getMySqlErrorNumber => exact fun _ => hnumber
    | _ => trivial
  · cases e with
    | getCursorErrorNumber => exact fun _ => hcursorNumber
    | _ => trivial
  · rintro ⟨y, hy, hne, e', r, w, k, hnext, -, -⟩
    rw [only y hy hne] at hnext
    cases hnext
  · rintro ⟨y, hy, hne, c, hnext⟩
    rw [only y hy hne] at hnext
    cases hnext

/-- When all calls of both clients are proper, each sees the same as if the other made no calls. -/
theorem clients_see_alone (host : Party → Host σ) (turns : ℕ) (plan : Party → Plan) (library : Party → σ)
    {tr : List (Stepped σ)} {t : Terminal σ} (h : TerminalRun host turns plan library tr t)
    (room : ∀ z ∈ tr, RoomAt z.before z.label)
    (proper : ∀ past z future, tr = past ++ z :: future →
      ProperAt host past (rivalOf host turns tr z.label) z.before z.label) (x : Party) :
    SeesAlone host turns plan library tr t x := by
  have hknown : ∀ z ∈ tr, KnownAt host turns (rivalOf host turns tr) z.before z.label :=
    fun z hz => knownAt_rivalOf hz
  generalize rivalOf host turns tr = rival at proper hknown
  have hseparate : ∃ S, Separate host turns plan library rival tr t S := by
    refine Run.reverse_induction (motive := fun tr t => (∀ z ∈ tr, RoomAt z.before z.label) →
      (∀ z ∈ tr, KnownAt host turns rival z.before z.label) →
      (∀ past z future, tr = past ++ z :: future → ProperAt host past (rival z.label) z.before z.label) →
        ∃ S, Separate host turns plan library rival tr t S) ?_ ?_ h room hknown proper
    · intro _ _ _
      exact ⟨_, Separate.start host turns plan library rival⟩
    · intro past z _ ih hstep hroom hknown hproper
      obtain ⟨S, hseparate⟩ := ih (fun y hy => hroom y (by simp [hy])) (fun y hy => hknown y (by simp [hy])) (by
        rintro past' y future rfl
        exact hproper past' y (future ++ [z]) (by simp))
      exact hseparate.step (hroom z (by simp)) (hknown z (by simp)) (hproper past z [] rfl) hstep
  obtain ⟨S, -, hshadowed, -⟩ := hseparate
  obtain ⟨tr', t', hrun', hlabels, shadow⟩ := hshadowed x
  exact ⟨tr', t', hrun', hlabels, shadow.seen.symm⟩

end Clients

instance (t : Terminal σ) (x : Party) : Decidable (RoomAt t x) :=
  inferInstanceAs (Decidable (∀ e ∈ (t.session x).nextCall, HasRoom t.dll e))

/-- The other client both connects and opens cursors. -/
def Rival.both : Rival := ⟨True, True⟩

instance : Decidable Rival.both.connects := isTrue trivial

instance : Decidable Rival.both.opens := isTrue trivial

/-- The next call of a step is proper whatever the other client does, with the marks of its past. -/
def ProperStep (host : Party → Host σ) (marks : Marks) (z : Stepped σ) : Prop :=
  ∀ e ∈ (z.before.session z.label).nextCall,
    Proper (host z.label) (z.before.world z.label) marks Rival.both z.label e

instance (host : Party → Host σ) (marks : Marks) (z : Stepped σ) : Decidable (ProperStep host marks z) :=
  inferInstanceAs (Decidable (∀ e ∈ (z.before.session z.label).nextCall,
    Proper (host z.label) (z.before.world z.label) marks Rival.both z.label e))

/-- A step which is proper without regard to the other is proper against any rival. -/
theorem ProperStep.properAt {host : Party → Host σ} {past : List (Stepped σ)} {z : Stepped σ}
    (h : ProperStep host (marksOf past) z) (rival : Rival) : ProperAt host past rival z.before z.label := by
  intro e he
  have hproper := h e he
  exact ⟨hproper.number, hproper.cursorNumber, fun _ => hproper.cursors trivial, fun _ => hproper.idle trivial⟩

/-- What the two clients do, what their servers answer, and how many steps each takes in turn. -/
structure Scenario where
  first : List Operation
  second : List Operation
  firstAnswers : List Outcomes
  secondAnswers : List Outcomes
  turns : List (Party × ℕ)

namespace Scenario

variable (s : Scenario)

/-- A plan which performs a list of operations. -/
def plan : Party → Plan
  | .first => fun seen => s.first[seen.length]?
  | .second => fun seen => s.second[seen.length]?

def library : Party → Server
  | .first => Server.fresh s.firstAnswers
  | .second => Server.fresh s.secondAnswers

/-- The libraries of the clients. The record sets of the second never end. -/
def host : Party → Host Server
  | .first => scriptedHost
  | .second => { scriptedHost with mysqlFetchRow := fun _ s => (some ⟨0⟩, s) }

/-- The steps of a terminal, taken in the given order. -/
def replayed (labels : List Party) : Except Fault (List (Stepped Server) × Terminal Server) :=
  replay (terminalStep host 8 s.plan) labels (Terminal.start s.plan s.library)

/-- The interleaved run. -/
def run : Except Fault (List (Stepped Server) × Terminal Server) :=
  s.replayed (s.turns.flatMap fun (x, n) => List.replicate n x)

end Scenario

/-- The first operations of a client which connects. -/
def connects : List Operation := [.newConnection 0, .setCredentials 0 .sample, .connect 0]

/-- The operations of a client whose server refuses it. -/
def isRefused : List Operation := [.newConnection 0, .setCredentials 0 .anonymous, .connect 0]

/-- Two clients which use connections and cursors and take turns. -/
def alternating : Scenario where
  first := connects ++ [.execute 0 [83], .newCursor 0, .openCursor 0 0 [83], .fetch 0, .closeCursor 0,
    .disconnect 0]
  second := connects ++ [.newCursor 0, .openCursor 0 0 [83], .openCursor 0 0 [83], .rows 0, .deleteCursor 0,
    .deleteConnection 0]
  firstAnswers := [.ofDone, .ofError 1064, .ofResultSet]
  secondAnswers := [.ofDone, .ofError 1146, .ofResultSet]
  turns := (List.replicate 23 [(.first, 1), (.second, 1)]).flatten

/-- Both clients see the errors of their own queries. -/
theorem clients_see_alone_sample :
    ∃ tr t, TerminalRun Scenario.host 8 alternating.plan alternating.library tr t ∧
      (t.session .first).seen.map Finished.lastError = [0, 0, 0, 1064, 0, 0, 0, 0, 0] ∧
        (t.session .second).seen.map Finished.lastError = [0, 0, 0, 0, 1146, 0, 0, 0, 0] ∧
          ∀ x, SeesAlone Scenario.host 8 alternating.plan alternating.library tr t x := by
  have hcheck : passes (fun run => decide ((∀ z ∈ run.1, RoomAt z.before z.label) ∧
        AllAlong Marks.after (ProperStep Scenario.host) Marks.start run.1 ∧
          (run.2.session .first).seen.map Finished.lastError = [0, 0, 0, 1064, 0, 0, 0, 0, 0] ∧
            (run.2.session .second).seen.map Finished.lastError = [0, 0, 0, 0, 1146, 0, 0, 0, 0]))
      alternating.run = true := by
    decide +kernel
  obtain ⟨tr, t, hrun, hcheck⟩ := Run.of_passes hcheck
  obtain ⟨room, proper, hfirst, hsecond⟩ := of_decide_eq_true hcheck
  refine ⟨tr, t, hrun, hfirst, hsecond, clients_see_alone _ _ _ _ hrun room ?_⟩
  rintro past z future rfl
  exact proper.at.properAt _

/-- The client ends its operations with the error numbers which it would read if the other made no calls. -/
def ReadsOwnErrors (host : Party → Host σ) (turns : ℕ) (plan : Party → Plan) (library : Party → σ)
    (tr : List (Stepped σ)) (t : Terminal σ) (x : Party) : Prop :=
  ∃ tr' t', TerminalRun host turns plan library tr' t' ∧
    tr'.map (·.label) = (tr.map (·.label)).filter (· = x) ∧
      (t'.session x).seen.map Finished.lastError = (t.session x).seen.map Finished.lastError

/-- The operations of a client which opens a cursor. -/
def opensCursor : List Operation := connects ++ [.newCursor 0, .openCursor 0 0 [83]]

/-- Runs in which the second client disturbs the first, one for each of the ways which proper calls exclude. -/
def disturbances : List Scenario := [
  -- the number of a refused connect is cleared before it is read
  ⟨isRefused, connects, [], [], [(.first, 3), (.second, 3), (.first, 3)]⟩,
  -- the number of a refused connect makes a batch fail before it is advanced to its error
  ⟨connects ++ [.execute 0 [83]], isRefused, [.ofDone, .ofBatch], [], [(.first, 5), (.second, 3), (.first, 4)]⟩,
  -- a read of no cursor leaves its number where the first client reads after closing
  ⟨opensCursor ++ [.closeCursor 0], [.newCursor 0, .rows 0], [.ofDone, .ofResultSet], [],
    [(.first, 9), (.second, 2), (.first, 3)]⟩,
  -- the slot which the first client has closed is opened again before its number is read
  ⟨opensCursor ++ [.closeCursor 0], opensCursor ++ [.fieldAsString 0 9], [.ofDone, .ofResultSet],
    [.ofDone, .ofResultSet], [(.first, 9), (.second, 9), (.first, 3)]⟩,
  -- a number of its own makes the first client keep the slot which it has closed and which is opened again
  ⟨opensCursor ++ [.newCursor 1, .rows 1, .closeCursor 0, .rows 0], opensCursor, [.ofDone, .ofResultSet],
    [.ofDone, .ofResultSet], [(.first, 17), (.second, 8), (.first, 4)]⟩,
  -- opening without a record set returns a slot which the second client then opens
  ⟨opensCursor ++ [.rows 0], opensCursor, [.ofDone, .ofDone], [.ofDone, .ofResultSet],
    [(.first, 8), (.second, 8), (.first, 4)]⟩,
  -- the connection of an open cursor is closed, and the second client takes its slot
  ⟨opensCursor ++ [.disconnect 0, .connect 0, .execute 0 [83], .fetch 0], connects,
    [.ofDone, .ofResultSet, .ofDone, .ofError 1064], [.ofDone], [(.first, 10), (.second, 5), (.first, 11)]⟩,
  -- without the row which the second client has left, the process ends
  ⟨opensCursor ++ [.fieldAsString 0 0], opensCursor ++ [.fetch 0, .closeCursor 0], [.ofDone, .ofResultSet],
    [.ofDone, .ofResultSet], [(.first, 6), (.second, 16), (.first, 6)]⟩]

/-- The scenario has a run with room in the tables in which the first client does not read its own errors. -/
def Disturbed (s : Scenario) : Prop :=
  ∃ tr t, TerminalRun Scenario.host 8 s.plan s.library tr t ∧ (∀ z ∈ tr, RoomAt z.before z.label) ∧
    ¬ReadsOwnErrors Scenario.host 8 s.plan s.library tr t .first

/-- Without proper calls the first client does not read its own errors. -/
theorem clients_disturbed : disturbances.Forall Disturbed := by
  have hcheck : ∀ s ∈ disturbances, passes (fun run => decide (∀ z ∈ run.1, RoomAt z.before z.label) &&
      !passes (fun alone => decide ((alone.2.session .first).seen.map Finished.lastError =
          (run.2.session .first).seen.map Finished.lastError))
        (s.replayed ((run.1.map (·.label)).filter (· = .first)))) s.run = true := by
    decide +kernel
  apply List.forall_iff_forall_mem.mpr
  intro s hs
  obtain ⟨tr, t, hrun, hcheck⟩ := Run.of_passes (hcheck s hs)
  rw [Bool.and_eq_true, Bool.not_eq_true'] at hcheck
  obtain ⟨room, halone⟩ := hcheck
  refine ⟨tr, t, hrun, of_decide_eq_true room, ?_⟩
  rintro ⟨tr', t', hrun', hlabels, herrors⟩
  rw [← hlabels, Scenario.replayed, hrun'.replay_eq] at halone
  exact of_decide_eq_false halone herrors

end MqlMySql
