import MqlMySql.Spec.Order
import MqlMySql.Spec.Server

/-!
# Connection slots in every interleaving

`cMySqlConnect` looks for a free slot and fills it inside the mutex, while `cMySqlDisconnect` frees slots without it.
All the same no slot is given twice: between two calls which fill one slot, a third has freed it, whatever the order
in which the accesses of the threads come.
-/

namespace MqlMySql

open Library

variable {T σ : Type} [DecidableEq T] {host : Host σ} {turns : ℕ} {library : σ}
  {tr past mid future : List (Threaded T σ)} {x y : Threaded T σ} {s : Threads T σ} {i : Fin maxConnections}

/-- A thread marks a connection slot as used. -/
def Fills (i : Fin maxConnections) (t : T) (x : Threaded T σ) : Prop :=
  ∃ id : ℤ, id ≠ -1 ∧ Stores t (.connectionId i) id x

/-- A slot is filled by `cMySqlConnect`, with its own number, inside the mutex, when it is free. -/
theorem ThreadRun.fills {t : T} (h : ThreadRun host turns library (past ++ x :: future) s) (hx : Fills i t x) :
    (∃ c p, x.before.running t = some ⟨.connect c, p⟩) ∧ x.before.shared.mutex = some (t, 0) ∧
      (x.before.shared.dll.connections i).id = -1 ∧ (x.after.shared.dll.connections i).id = i.val := by
  obtain ⟨id, hid, hlabel, hreply⟩ := hx
  obtain ⟨e, rest, phase, next, hrun, hphase, hleads, hok⟩ := h.made hlabel hreply
  generalize ht : phase t = from_ at hleads
  cases hleads with
  | first r locks plain => exact absurd plain.1 hid
  | apart r locks plain => exact absurd plain.1 hid
  | plain stage r locks plain => exact absurd plain.1 hid
  | giveConnection i connects =>
    obtain ⟨c, rfl⟩ := connects
    exact ⟨⟨c, _, hrun⟩, (hphase.orderly.owner t).mp ⟨_, ht⟩, hphase.orderly.facts t _ ht, stored hok⟩

/-- Between two threads which fill one slot, a thread has freed it. -/
theorem ThreadRun.filled_twice {t u : T}
    (h : ThreadRun host turns library (past ++ x :: (mid ++ y :: future)) s) (hx : Fills i t x) (hy : Fills i u y) :
    ∃ z ∈ mid, ∃ v, Stores v (.connectionId i) (-1 : ℤ) z := by
  have hafter : (x.after.shared.dll.connections i).id ≠ -1 := by
    rw [(h.fills hx).2.2.2]
    exact val_ne_neg_one i
  have hbefore : (y.before.shared.dll.connections i).id = -1 := by
    have hfull : ThreadRun host turns library ((past ++ x :: mid) ++ y :: future) s := by simpa using h
    exact (hfull.fills hy).2.2.1
  obtain ⟨-, -, hrest⟩ := Run.split_at h
  obtain ⟨hmid, -, -⟩ := hrest.split_at
  obtain ⟨before, z, after, rfl, hused, hfree⟩ :=
    hmid.flips (fun s => (s.shared.dll.connections i).id ≠ -1) hafter (not_not.mpr hbefore)
  have hsplit : ThreadRun host turns library ((past ++ x :: before) ++ z :: (after ++ y :: future)) s := by
    simpa using h
  obtain ⟨v, id, hstores, hid⟩ := (hsplit.cell (.connectionId i)).resolve_left
    fun hsame => hfree fun hempty => hused (hsame.symm.trans hempty)
  obtain rfl : id = -1 := hid.symm.trans (not_not.mp hfree)
  exact ⟨z, by simp, v, hstores⟩

/-- The stage of a thread which has filled a slot shows in what it has stored. -/
theorem Leads.gave {e : Exported} {from_ q : Phase} {a : Access} {r : a.Reply} {made : List (Σ a, a.Reply)}
    (h : Leads e from_ a r q)
    (inv : ∀ i, from_ = .inside (.gaveConnection i) ∨ from_ = .left (.gaveConnection i) →
      ⟨.store (.connectionId i) (i.val : ℤ), ()⟩ ∈ made) :
    ∀ i, q = .inside (.gaveConnection i) ∨ q = .left (.gaveConnection i) →
      ⟨.store (.connectionId i) (i.val : ℤ), ()⟩ ∈ made ++ [⟨a, r⟩] := by
  intro i hq
  cases h with
  | plain stage r locks plain => exact List.mem_append_left _ (inv i hq)
  | unlock stage settled => exact List.mem_append_left _ (inv i (by simpa using hq))
  | read stage k v reads => exact List.mem_append_left _ (inv i hq)
  | giveConnection j connects =>
    obtain rfl : j = i := by simpa using hq
    simp
  | _ => simp at hq

/-- A call of `cMySqlConnect` which returns an id has filled the slot itself. -/
theorem ThreadRun.connect_filled {t : T} {c : Credentials} {v : ℤ}
    (h : ThreadRun host turns library (past ++ x :: future) s) (label : x.label = .advance t)
    (reply : x.reply = .returned (.connect c) v) (hv : v ≠ -1) :
    ∃ i : Fin maxConnections, v = i.val ∧
      ∃ (first : List (Threaded T σ)) (y : Threaded T σ) (own : List (Threaded T σ)),
        past = first ++ y :: own ∧ y.label = .enter t (.connect c) ∧ (∀ z ∈ own, ∀ e, z.label ≠ .enter t e) ∧
          ∃ z ∈ own, Fills i t z := by
  obtain ⟨first, y, own, rfl, hy, hown, path⟩ := h.returned label reply
  obtain ⟨last, hlast, hends⟩ := (obeys_code host turns (.connect c)).path path
    (fun made phase => ∀ i, phase = .inside (.gaveConnection i) ∨ phase = .left (.gaveConnection i) →
      ⟨.store (.connectionId i) (i.val : ℤ), ()⟩ ∈ made) (by simp) fun _ _ _ _ _ inv leads => leads.gave inv
  obtain ⟨stage, rfl, hfailed | ⟨i, hvi, rfl⟩⟩ := hends
  · exact absurd hfailed hv
  · refine ⟨i, hvi, first, y, own, rfl, hy, hown, ?_⟩
    obtain ⟨z, hz, haccess⟩ := List.mem_filterMap.mp (hlast i (.inr rfl))
    exact ⟨z, hz, i.val, val_ne_neg_one i, Moved.access_eq_some haccess⟩

/-- In every interleaving a connection slot is given away once at a time: a call of `cMySqlConnect` which returns an
id has filled the slot with it while it was free and the mutex was its own, and before another call fills the same slot
a thread has freed it. -/
theorem ThreadRun.connections_exclusive (h : ThreadRun host turns library tr s) :
    (∀ past x future t c (v : ℤ), tr = past ++ x :: future → x.label = .advance t →
      x.reply = .returned (.connect c) v → v ≠ -1 →
        ∃ i : Fin maxConnections, v = i.val ∧
          ∃ (first : List (Threaded T σ)) (y : Threaded T σ) (own : List (Threaded T σ)),
            past = first ++ y :: own ∧ y.label = .enter t (.connect c) ∧ (∀ z ∈ own, ∀ e, z.label ≠ .enter t e) ∧
              ∃ z ∈ own, Fills i t z ∧ z.before.shared.mutex = some (t, 0) ∧
                (z.before.shared.dll.connections i).id = -1 ∧ (z.after.shared.dll.connections i).id = i.val) ∧
    ∀ past x mid y future i t u, tr = past ++ x :: (mid ++ y :: future) → Fills i t x → Fills i u y →
      ∃ z ∈ mid, ∃ v, Stores v (.connectionId i) (-1 : ℤ) z := by
  constructor
  · rintro past x future t c v rfl label reply hv
    obtain ⟨i, hvi, first, y, own, rfl, hy, hown, z, hz, hfills⟩ := h.connect_filled label reply hv
    refine ⟨i, hvi, first, y, own, rfl, hy, hown, z, hz, hfills, ?_⟩
    obtain ⟨before, after, rfl⟩ := List.append_of_mem hz
    have hsplit : ThreadRun host turns library ((first ++ y :: before) ++ z :: (after ++ x :: future)) s := by
      simpa using h
    exact (hsplit.fills hfills).2
  · rintro past x mid y future i t u rfl hx hy
    exact h.filled_twice hx hy

/-- Two threads have a slot each, the first gives its own back, and a third is given it again. -/
theorem connections_exclusive_sample :
    ∃ (tr : List (Threaded ℕ Server)) (s : Threads ℕ Server),
      ThreadRun scriptedHost 8 (Server.fresh []) tr s ∧
        (∀ t < 3, Move.enter t (.connect .sample) ∈ tr.map (·.label) ∧ (s.running t).isNone) ∧
        (s.shared.dll.connections ⟨0, by decide⟩).id = 0 ∧ (s.shared.dll.connections ⟨1, by decide⟩).id = 1 ∧
        (s.shared.dll.connections ⟨2, by decide⟩).id = -1 ∧
        ∀ past x mid y future i t u, tr = past ++ x :: (mid ++ y :: future) → Fills i t x → Fills i u y →
          ∃ z ∈ mid, ∃ v, Stores v (.connectionId i) (-1 : ℤ) z := by
  have hcheck : passes (fun run => decide (
        (∀ t < 3, Move.enter t (.connect .sample) ∈ run.1.map (·.label) ∧ (run.2.running t).isNone) ∧
        (run.2.shared.dll.connections ⟨0, by decide⟩).id = 0 ∧
        (run.2.shared.dll.connections ⟨1, by decide⟩).id = 1 ∧
        (run.2.shared.dll.connections ⟨2, by decide⟩).id = -1))
      (replay (threadStep (T := ℕ) scriptedHost 8)
        ([.enter 0 (.connect .sample), .enter 1 (.connect .sample)] ++ List.replicate 11 (.advance 0) ++
          List.replicate 12 (.advance 1) ++ .enter 0 (.disconnect 0) :: List.replicate 7 (.advance 0) ++
          .enter 2 (.connect .sample) :: List.replicate 11 (.advance 2))
        (Threads.start ℕ (Server.fresh []))) = true := by
    decide +kernel
  obtain ⟨tr, s, hrun, hcheck⟩ := Run.of_passes hcheck
  obtain ⟨hcalls, hfirst, hsecond, hthird⟩ := of_decide_eq_true hcheck
  exact ⟨tr, s, hrun, hcalls, hfirst, hsecond, hthird, (ThreadRun.connections_exclusive hrun).2⟩

end MqlMySql
