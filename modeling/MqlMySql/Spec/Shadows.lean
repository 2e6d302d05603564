import MqlMySql.Spec.Followed
import MqlMySql.Spec.ObjectTwins

/-!
# A client and its shadow

A client is followed in two terminals: in one the other client uses the DLL as well, in its shadow the other makes
no calls. A proper step of the client has its counterpart in the shadow, and a step of the other needs none.
-/

namespace MqlMySql

open Library

variable {σ : Type} {host : Party → Host σ} {turns : ℕ} {plan : Party → Plan} {library : Party → σ}
  {t t' : Terminal σ} {x y : Party} {S : Pairs} {marks : Marks}

/-- The next call of a client finds the free slot which it may need. -/
def RoomAt (t : Terminal σ) (x : Party) : Prop :=
  ∀ e ∈ (t.session x).nextCall, HasRoom t.dll e

/-- The next call of a client is proper, with what the record says about the past and the other client. -/
def ProperAt (host : Party → Host σ) (past : List (Stepped σ)) (rival : Rival) (t : Terminal σ) (x : Party) :
    Prop :=
  ∀ e ∈ (t.session x).nextCall, Proper (host x) (t.world x) (marksOf past) rival x e

/-- The next call of a client connects. -/
def ConnectsAt (t : Terminal σ) (x : Party) : Prop :=
  ∃ c, (t.session x).nextCall = some (.connect c)

/-- The next call of a client opens a cursor and returns a slot. -/
def OpensAt (host : Party → Host σ) (turns : ℕ) (t : Terminal σ) (x : Party) : Prop :=
  ∃ (e : Exported) (r : e.Reply) (w : World σ) (k : Fin maxCursors), (t.session x).nextCall = some e ∧
    (call (host x) turns e).run (t.world x) = .ok (r, w) ∧ GivesSlot k e r

/-- What the next call of a client does is known of the rivals of the others. -/
structure KnownAt (host : Party → Host σ) (turns : ℕ) (rival : Party → Rival) (t : Terminal σ) (x : Party) :
    Prop where
  connects : ConnectsAt t x → ∀ y, y ≠ x → (rival y).connects
  opens : OpensAt host turns t x → ∀ y, y ≠ x → (rival y).opens

/-- A client in a terminal which the other uses too, and in one in which the other makes no calls. -/
structure Shadow (S : Pairs) (marks : Marks) (x : Party) (t t' : Terminal σ) : Prop where
  followed : Followed S marks x (t.world x) (t'.world x)
  seen : (t.session x).seen = (t'.session x).seen
  running : Option.Rel (Alongside Twin Ended S) (t.session x).running (t'.session x).running

/-- The clients have no slots in common, and the second has none of a table which the first has for itself. -/
structure Apart (S S' : Pairs) : Prop where
  connections : ∀ i, S.connections i ≠ none → S'.connections i = none
  cursors : ∀ k, S.cursors k ≠ none → S'.cursors k = none
  noConnections : ¬S.rival.connects → ∀ i, S'.connections i = none
  noCursors : ¬S.rival.opens → ∀ k, S'.cursors k = none

/-- A client takes only slots which were free, by connecting and opening cursors. -/
structure Grows (host : Party → Host σ) (turns : ℕ) (x : Party) (t : Terminal σ) (S S' : Pairs) : Prop where
  rival : S'.rival = S.rival
  connections : ∀ i, S'.connections i ≠ none →
    S.connections i ≠ none ∨ (t.dll.connections i).id = -1 ∧ ConnectsAt t x
  cursors : ∀ k, S'.cursors k ≠ none → S.cursors k ≠ none ∨ (t.dll.cursors k).id = -1 ∧ OpensAt host turns t x

/-- A party which makes no step keeps its pairs. -/
theorem Grows.refl (host : Party → Host σ) (turns : ℕ) (x : Party) (t : Terminal σ) (S : Pairs) :
    Grows host turns x t S S :=
  ⟨rfl, fun _ => Or.inl, fun _ => Or.inl⟩

section After

variable {u : Unit} {t₁ : Terminal σ}

/-- Nothing is noted of a step without a call. -/
theorem Marks.after_silent (marks : Marks) (h : (t.session x).nextCall = none) :
    marks.after ⟨t, x, u, t₁⟩ = marks := by
  unfold Marks.after
  simp only [h]

/-- The marks after a step in which the party makes a call. -/
theorem Marks.after_call (marks : Marks) {e : Exported} (h : (t.session x).nextCall = some e) :
    marks.after ⟨t, x, u, t₁⟩ = marks.note x e t.dll t₁.dll := by
  unfold Marks.after
  simp only [h]

end After

/-- The programs of the same operation on objects alike. -/
theorem program_twins {a b : Objects} (h : ObjectsAlike S.connections S.cursors S.rival.opens a b) (plan : Plan)
    (seen : List Finished) :
    Option.Rel (Alongside Twin Ended S) (plan.program seen a) (plan.program seen b) := by
  rw [Plan.program, Plan.program]
  cases plan seen with
  | none => exact Option.Rel.none
  | some operation => exact perform_twins h operation

/-- Without objects the two worlds are alike. -/
theorem ObjectsAlike.none (t : Pairing maxConnections) (u : Pairing maxCursors) (shared : Prop) :
    ObjectsAlike t u shared Objects.none Objects.none where
  connectIDs :=
    { paired := fun _ => Option.Rel.none
      exclusive := by rintro - o o' p ⟨⟩ }
  cursorIDs :=
    { paired := fun _ => Option.Rel.none
      exclusive := by rintro - o o' p ⟨⟩ }
  connection := by rintro o this this' ⟨⟩
  cursor := by rintro o this this' ⟨⟩

/-- Before the first step. -/
theorem Shadow.start (plan : Party → Plan) (library : Party → σ) (rival : Rival) (x : Party) :
    Shadow (Pairs.none rival) Marks.start x (Terminal.start plan library) (Terminal.start plan library) where
  followed :=
    { sees :=
        { library := rfl
          connectionsFaithful := ⟨by rintro i j i' ⟨⟩, by rintro - i i' ⟨⟩⟩
          cursorsFaithful := ⟨by rintro k l k' ⟨⟩, by rintro - k k' ⟨⟩⟩
          connection := by rintro i i' ⟨⟩
          handles := fun _ _ => ⟨Iff.rfl, rfl⟩
          cursor := by
            rintro k k' (⟨⟨⟩⟩ | ⟨unshared, rfl⟩)
            exact ⟨Iff.rfl, fun hopens => absurd hopens unshared, fun _ => rfl, fun _ => rfl, fun _ => rfl,
              fun h => absurd rfl h⟩
          ownConnections := fun i' h => absurd rfl h
          ownCursors := fun k' h => absurd rfl h }
      number := rfl
      cursorNumber := rfl
      opened := fun k h => absurd rfl h }
  seen := rfl
  running := program_twins (ObjectsAlike.none _ _ _) (plan x) []

/-- A step of the client has its counterpart when the other makes no calls. -/
theorem Shadow.own {u : Unit} {t₁ : Terminal σ} (shadow : Shadow S marks x t t')
    (h : terminalStep host turns plan x t = .ok (u, t₁)) (room : RoomAt t x)
    (proper : ∀ e ∈ (t.session x).nextCall, Proper (host x) (t.world x) marks S.rival x e) :
    ∃ t₁' S', terminalStep host turns plan x t' = .ok ((), t₁') ∧
      Shadow S' (marks.after ⟨t, x, u, t₁⟩) x t₁ t₁' ∧ Grows host turns x t S S' := by
  obtain ⟨followed, hseen, hrunning⟩ := shadow
  rcases terminalStep_cases h with ⟨hidle, rfl⟩ | ⟨finished, objects, hdone, rfl⟩ |
    ⟨e, rest, r, w, hcall, hrun, rfl⟩
  · have hsilent : (t₁.session x).nextCall = none := by rw [Session.nextCall, hidle]
    cases hidle' : (t'.session x).running with
    | none =>
      refine ⟨t', S, terminalStep_of_none hidle', ?_, Grows.refl ..⟩
      rw [marks.after_silent hsilent]
      exact ⟨followed, hseen, hrunning⟩
    | some p' =>
      rw [hidle, hidle'] at hrunning
      cases hrunning
  · have hsilent : (t.session x).nextCall = none := by rw [Session.nextCall, hdone]
    cases hdone' : (t'.session x).running with
    | none =>
      rw [hdone, hdone'] at hrunning
      cases hrunning
    | some p' =>
      rw [hdone, hdone'] at hrunning
      cases hrunning with
      | some halong =>
        cases halong with
        | @done _ _ result' ends =>
          obtain ⟨finished', objects'⟩ := result'
          obtain ⟨rfl, halike⟩ := ends
          refine ⟨_, S, terminalStep_of_done hdone', ?_, Grows.refl ..⟩
          rw [marks.after_silent hsilent]
          refine ⟨followed, ?_, ?_⟩
          · rw [Terminal.moved_session, Terminal.moved_session, hseen]
          · rw [Terminal.moved_session, Terminal.moved_session, hseen]
            exact program_twins halike (plan x) _
  · have hnext : (t.session x).nextCall = some e := by rw [Session.nextCall, hcall]
    cases hcall' : (t'.session x).running with
    | none =>
      rw [hcall, hcall'] at hrunning
      cases hrunning
    | some p' =>
      rw [hcall, hcall'] at hrunning
      cases hrunning with
      | some halong =>
        cases halong with
        | @call _ _ e' _ rest' Post twin next =>
          obtain ⟨r', v', S', hrun', post, followed'⟩ :=
            followed.follow twin (room e hnext) (proper e hnext) hrun
          refine ⟨_, S', terminalStep_of_call hcall' hrun', ?_, twin.rival post, ?_, ?_⟩
          · rw [marks.after_call hnext]
            refine ⟨?_, ?_, ?_⟩
            · rw [Terminal.called_world, Terminal.called_world]
              exact followed'
            · rw [Terminal.called_session, Terminal.called_session]
              exact hseen
            · rw [Terminal.called_session, Terminal.called_session]
              exact Option.Rel.some (next r r' S' post)
          · intro i hi
            refine (twin.new_connection post hrun hi).imp_right fun ⟨hfree, c, he⟩ => ⟨hfree, c, ?_⟩
            rw [hnext, he]
          · intro k hk
            exact (twin.new_cursor post hrun hk).imp_right fun ⟨hfree, hgives⟩ =>
              ⟨hfree, e, r, w, k, hnext, hrun, hgives⟩

/-- The next call of a client names slots of the client only. -/
theorem Shadow.names (shadow : Shadow S marks x t t') {e : Exported} (h : e ∈ (t.session x).nextCall) :
    (∀ i, NamesConnection i e → S.connections i ≠ none) ∧ ∀ k, NamesCursor k e → S.cursors k ≠ none := by
  have hrunning := shadow.running
  unfold Session.nextCall at h
  split at h
  · rename_i rest hcall
    cases h
    rw [hcall] at hrunning
    generalize (t'.session x).running = running' at hrunning
    cases hrunning with
    | some halong =>
      cases halong with
      | call twin next => exact ⟨fun i => twin.namesConnection, fun k => twin.namesCursor⟩
  · cases h

/-- A step of the other client changes nothing of what the client sees. -/
theorem Shadow.other {u : Unit} {t₁ : Terminal σ} {S' : Pairs} {rival : Party → Rival} {t'' : Terminal σ}
    (shadow : Shadow S marks y t t') (hxy : x ≠ y) (h : terminalStep host turns plan x t = .ok (u, t₁))
    (hrival : S.rival = rival y) (known : KnownAt host turns rival t x) (shadow' : Shadow S' marks x t t'')
    (apart : Apart S' S) (apart' : Apart S S') : Shadow S (marks.after ⟨t, x, u, t₁⟩) y t₁ t' := by
  obtain ⟨followed, hseen, hrunning⟩ := shadow
  rcases terminalStep_cases h with ⟨hidle, rfl⟩ | ⟨finished, objects, hdone, rfl⟩ |
    ⟨e, rest, r, w, hcall, hrun, rfl⟩
  · have hsilent : (t₁.session x).nextCall = none := by rw [Session.nextCall, hidle]
    rw [marks.after_silent hsilent]
    exact ⟨followed, hseen, hrunning⟩
  · have hsilent : (t.session x).nextCall = none := by rw [Session.nextCall, hdone]
    rw [marks.after_silent hsilent]
    have hsession := t.moved_session_of_ne ⟨(t.session x).seen ++ [finished],
      (plan x).program ((t.session x).seen ++ [finished]) objects⟩ hxy.symm
    exact ⟨followed, by rw [hsession, hseen], by rw [hsession]; exact hrunning⟩
  · have hnext : (t.session x).nextCall = some e := by rw [Session.nextCall, hcall]
    rw [marks.after_call hnext]
    obtain ⟨hnames, hnames'⟩ := shadow'.names hnext
    have hsession := t.called_session_of_ne w (rest r) hxy.symm
    refine ⟨?_, by rw [hsession, hseen], by rw [hsession]; exact hrunning⟩
    have hlibrary : ((t.called x w (rest r)).world y).library = (t.world y).library :=
      Function.update_of_ne hxy.symm ..
    have hafter : ((t.called x w (rest r)).world y).dll = w.dll := rfl
    refine followed.other hrun hxy rfl hafter hlibrary ?_ ?_ ?_ ?_
    · intro i hi
      exact ⟨apart.connections i (hnames i hi), not_imp_comm.mp apart'.noConnections (fun hno => hnames i hi (hno i))⟩
    · intro k hk
      exact ⟨apart.cursors k (hnames' k hk), not_imp_comm.mp apart'.noCursors (fun hno => hnames' k hk (hno k))⟩
    · rintro c rfl
      rw [hrival]
      exact known.connects ⟨c, hnext⟩ y hxy.symm
    · intro k hk
      rw [hrival]
      exact known.opens ⟨e, r, w, k, hnext, hrun, hk⟩ y hxy.symm

/-- A free slot is no slot of the client, in a table which the others use too. -/
theorem Shadow.free (shadow : Shadow S marks x t t') :
    (∀ i, (t.dll.connections i).id = -1 → S.connections i = none) ∧
      (S.rival.opens → ∀ k, (t.dll.cursors k).id = -1 → S.cursors k = none) := by
  constructor
  · intro i hfree
    cases hi : S.connections i with
    | none => rfl
    | some i' => exact absurd hfree (shadow.followed.sees.connection i i' hi).live
  · intro hopens k hfree
    cases hk : S.cursors k with
    | none => rfl
    | some k' => exact absurd hfree ((shadow.followed.sees.cursor k k' (Or.inl hk)).isOpen hopens)

/-- The clients remain apart when one of them takes free slots. -/
theorem Apart.of_grows {S₁ S' : Pairs} {rival : Party → Rival} (apart : Apart S₁ S) (apart' : Apart S S₁)
    (grows : Grows host turns x t S₁ S') (shadow : Shadow S marks y t t') (hrival : S.rival = rival y)
    (known : KnownAt host turns rival t x) (hyx : y ≠ x) : Apart S' S ∧ Apart S S' := by
  obtain ⟨hfree, hfree'⟩ := shadow.free
  have hconnections : ∀ i, S'.connections i ≠ none → S.connections i = none := by
    intro i hi
    rcases grows.connections i hi with hold | ⟨hi, -⟩
    · exact apart.connections i hold
    · exact hfree i hi
  have hcursors : ∀ k, S'.cursors k ≠ none → S.cursors k = none := by
    intro k hk
    rcases grows.cursors k hk with hold | ⟨hk, hopens⟩
    · exact apart.cursors k hold
    · exact hfree' (hrival ▸ known.opens hopens y hyx) k hk
  refine ⟨⟨hconnections, hcursors, ?_, ?_⟩, ⟨?_, ?_, ?_, ?_⟩⟩
  · rw [grows.rival]
    exact apart.noConnections
  · rw [grows.rival]
    exact apart.noCursors
  · exact fun i => not_imp_comm.mp (hconnections i)
  · exact fun k => not_imp_comm.mp (hcursors k)
  · intro unrivalled i
    by_contra hi
    rcases grows.connections i hi with hold | ⟨-, hconnects⟩
    · exact hold (apart'.noConnections unrivalled i)
    · exact unrivalled (hrival ▸ known.connects hconnects y hyx)
  · intro unrivalled k
    by_contra hk
    rcases grows.cursors k hk with hold | ⟨-, hopens⟩
    · exact hold (apart'.noCursors unrivalled k)
    · exact unrivalled (hrival ▸ known.opens hopens y hyx)

end MqlMySql
