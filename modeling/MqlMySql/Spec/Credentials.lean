import MqlMySql.Model.Exported
import MqlMySql.Spec.ConnectionCalls

/-!
# Credentials which fit

`cMySqlConnect` copies five strings into buffers of fixed size, in the encoding of the locale. The copies come
back exactly when every encoding is no longer than its string and fits its buffer.
-/

namespace MqlMySql

open Library

variable {σ : Type} (host : Host σ)

/-- The encoding of a string is no longer than the string and fits a buffer with its terminator. -/
def CopyFits (capacity : ℕ) (s : WStr) : Prop :=
  (host.wcstombs s).length ≤ s.length ∧ (host.wcstombs s).length < capacity

/-- All five strings fit their buffers. -/
structure CredentialsFit (c : Credentials) : Prop where
  pHost : CopyFits host 1024 c.pHost
  pUser : CopyFits host 32 c.pUser
  pPassword : CopyFits host 32 c.pPassword
  pDatabase : CopyFits host 32 c.pDatabase
  pSocket : CopyFits host 64 c.pSocket

variable {host}

/-- A string which fits is copied. -/
theorem run_sprintfS_of_fits {capacity : ℕ} {s : WStr} (h : CopyFits host capacity s) (w : World σ) :
    (sprintfS capacity (s.length + 1) (host.wcstombs s)).run w = .ok (host.wcstombs s, w) := by
  obtain ⟨hlength, hcapacity⟩ := h
  rw [sprintfS, if_neg (by omega), if_neg (by omega)]
  rfl

/-- Only a string which fits is copied. -/
theorem copyFits_of_run {capacity : ℕ} {s : WStr} {w w' : World σ} {answer : List UInt8}
    (h : (sprintfS capacity (s.length + 1) (host.wcstombs s)).run w = .ok (answer, w')) :
    CopyFits host capacity s := by
  unfold sprintfS at h
  split at h
  · cases h
  · split at h
    · cases h
    · constructor <;> omega

/-- The copies build the whole request when all strings fit. -/
theorem run_copyCredentials_of_fit {c : Credentials} (h : CredentialsFit host c) (w : World σ) :
    (copyCredentials host c).run w = .ok (c.request host, w) := by
  simp only [copyCredentials, StateT.run_bind, run_sprintfS_of_fits h.pHost,
    run_sprintfS_of_fits h.pUser, run_sprintfS_of_fits h.pPassword, run_sprintfS_of_fits h.pDatabase,
    run_sprintfS_of_fits h.pSocket, ok_bind]
  rfl

/-- The copies only come back when all strings fit. -/
theorem credentialsFit_of_run {c : Credentials} {w w' : World σ} {request : ConnectRequest}
    (h : (copyCredentials host c).run w = .ok (request, w')) : CredentialsFit host c := by
  simp only [copyCredentials, run_bind_eq_ok_iff] at h
  obtain ⟨xHost, w₁, h₁, xUser, w₂, h₂, xPassword, w₃, h₃, xDatabase, w₄, h₄, xSocket, w₅, h₅, -⟩ := h
  exact ⟨copyFits_of_run h₁, copyFits_of_run h₂, copyFits_of_run h₃, copyFits_of_run h₄,
    copyFits_of_run h₅⟩

/-- A call which comes back found no free slot or copied strings which fit. -/
theorem credentialsFit_of_connect {c : Credentials} {r : ℤ} {w w' : World σ}
    (h : (cMySqlConnect host c).run w = .ok (r, w')) :
    getNewConnectionId w.dll = -1 ∨ CredentialsFit host c := by
  have hsame : getNewConnectionId (w.dll.setMySqlError 0 "No errors.") = getNewConnectionId w.dll :=
    getNewConnectionId_congr fun _ => rfl
  rcases getNewConnectionId_cases w.dll with hfull | ⟨i, hfree, -⟩
  · exact Or.inl hfull
  · simp only [cMySqlConnect, StateT.run_bind, run_modifyDll, ok_bind, run_readDll,
      World.onDll_dll, clearErrors_neg_one, hsame, hfree, slotIndex_val] at h
    obtain ⟨⟨request, w₁⟩, hcopy, -⟩ := bind_eq_ok_iff.mp h
    exact Or.inr (credentialsFit_of_run hcopy)

/-- Without a free slot nothing is copied, and with strings which fit every copy succeeds. -/
theorem connect_returns {c : Credentials} {w : World σ}
    (h : getNewConnectionId w.dll = -1 ∨ CredentialsFit host c) :
    ∃ r w', (cMySqlConnect host c).run w = .ok (r, w') := by
  have hsame : getNewConnectionId (w.dll.setMySqlError 0 "No errors.") = getNewConnectionId w.dll :=
    getNewConnectionId_congr fun _ => rfl
  rcases getNewConnectionId_cases w.dll with hfull | ⟨i, hfree, -⟩
  · simp [cMySqlConnect, hsame, hfull]
  · have hfit : CredentialsFit host c := by
      apply h.resolve_left
      rw [hfree]
      exact val_ne_neg_one i
    simp only [cMySqlConnect, StateT.run_bind, run_modifyDll, ok_bind, run_readDll,
      World.onDll_dll, clearErrors_neg_one, hsame, hfree, slotIndex_val,
      run_copyCredentials_of_fit hfit]
    cases hinit : (host.mysqlInit w.library).1 with
    | none => simp [hinit]
    | some mysql =>
      simp only [run_perform, ok_bind, World.onDll_library, hinit, StateT.run_bind, run_modifyDll]
      split
      · exact ⟨_, _, rfl⟩
      · exact ⟨_, _, rfl⟩

end MqlMySql
