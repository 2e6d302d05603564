import MqlMySql.Spec.Credentials
import MqlMySql.Spec.Server

/-!
# Copying the credentials

`cMySqlConnect` copies five strings into buffers of fixed size, in the encoding of the locale. The size
which it hands to each copy is the length of the wide string, not the size of the buffer. The copies succeed
exactly when every encoding is no longer than its string and fits the buffer; otherwise the call does not
come back.
-/

namespace MqlMySql

open Library

variable {σ : Type} (host : Host σ)

/-- Connecting copies safely: it comes back, and either `mysql_real_connect` was given all five encodings or
the failure is reported. -/
def CopiesSafely (c : Credentials) (w : World σ) : Prop :=
  ∃ r w', (cMySqlConnect host c).run w = .ok (r, w') ∧
    ((∃ mysql answer made, w'.calls = made ++ w.calls ∧
        LibraryCall.realConnect mysql (c.request host) answer ∈ made) ∨
      r = -1 ∧ cGetMySqlErrorNumber (-1) w'.dll ≠ 0)

variable {host}

/-- What a call which comes back did with the strings. -/
theorem ConnectOutcome.copiesSafely {c : Credentials} {r : ℤ} {w w' : World σ}
    (h : ConnectOutcome host c w r w') :
    (∃ mysql answer made, w'.calls = made ++ w.calls ∧
        LibraryCall.realConnect mysql (c.request host) answer ∈ made) ∨
      r = -1 ∧ cGetMySqlErrorNumber (-1) w'.dll ≠ 0 := by
  rw [cGetMySqlErrorNumber_of_dead liveConnection_neg_one]
  cases h with
  | full => exact Or.inr ⟨rfl, by simp⟩
  | unallocated => exact Or.inr ⟨rfl, by simp⟩
  | refused i free mysql =>
    refine Or.inl ⟨mysql, w.connectAnswer host c mysql, [.error (some mysql), .errno (some mysql),
      .realConnect mysql (c.request host) (w.connectAnswer host c mysql),
      .init (host.mysqlInit w.library).1], rfl, by simp⟩
  | connected i free mysql =>
    refine Or.inl ⟨mysql, w.connectAnswer host c mysql, [
      .realConnect mysql (c.request host) (w.connectAnswer host c mysql),
      .init (host.mysqlInit w.library).1], rfl, by simp⟩

/-- Connecting copies safely exactly when there is no free slot, so that nothing is copied, or every encoding
is no longer than its string and fits its buffer. -/
theorem connect_copiesSafely_iff (host : Host σ) (c : Credentials) (w : World σ) :
    CopiesSafely host c w ↔ getNewConnectionId w.dll = -1 ∨ CredentialsFit host c := by
  constructor
  · rintro ⟨r, w', hrun, -⟩
    exact credentialsFit_of_connect hrun
  · intro h
    obtain ⟨r, w', hrun⟩ := connect_returns h
    exact ⟨r, w', hrun, (cMySqlConnect_outcome host hrun).copiesSafely⟩

/-- A user name of 32 characters is written past the end of its buffer. -/
theorem longUser_not_copied_safely :
    (cMySqlConnect scriptedHost { Credentials.sample with pUser := List.replicate 32 117 }).run
        (attach (Server.fresh [])) = .error .bufferOverrun ∧
      ¬ CopiesSafely scriptedHost { Credentials.sample with pUser := List.replicate 32 117 }
        (attach (Server.fresh [])) := by
  have hrun : (cMySqlConnect scriptedHost
      { Credentials.sample with pUser := List.replicate 32 117 }).run (attach (Server.fresh [])) =
        .error .bufferOverrun := by
    rfl
  refine ⟨hrun, ?_⟩
  rintro ⟨r, w', hok, -⟩
  rw [hrun] at hok
  cases hok

end MqlMySql
