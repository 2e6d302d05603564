import MqlMySql.Spec.Refinement

/-!
# What process detach does

`ConnectionsDeinit` and `CursorsDeinit` walk through their tables and release what is live or open.
Both always return, and nothing is registered afterwards.
-/

namespace MqlMySql

open Library

variable {σ : Type} (host : Host σ)

/-- One turn of `ConnectionsDeinit`. -/
def World.connectionDropped (w : World σ) (i : Fin maxConnections) : World σ :=
  if (w.dll.connections i).id ≠ -1 then
    (w.commanded (host.mysqlClose (w.handle i)) (.close (w.handle i))).onDll
      (deleteConnection i.val)
  else w

/-- One turn of `CursorsDeinit`. -/
def World.cursorDropped (w : World σ) (k : Fin maxCursors) : World σ :=
  if (w.dll.cursors k).id ≠ -1 then
    (w.commanded (host.mysqlFreeResult (w.recordSet k)) (.freeResult (w.recordSet k))).onDll
      (deleteCursor k.val)
  else w

/-- The world after `ConnectionsDeinit`. -/
def World.connectionsDropped (w : World σ) : World σ :=
  (List.finRange maxConnections).foldl (World.connectionDropped host) (w.onDll (clearErrors (-1)))

/-- The world after `CursorsDeinit`. -/
def World.cursorsDropped (w : World σ) : World σ :=
  (List.finRange maxCursors).foldl (World.cursorDropped host) (w.onDll (clearCursorErrors (-1)))

/-- `connectionsDeinit` runs to its end from every state. -/
theorem run_connectionsDeinit (w : World σ) :
    (connectionsDeinit host).run w = .ok ((), w.connectionsDropped host) := by
  rw [connectionsDeinit, StateT.run_bind, run_modifyDll, ok_bind]
  apply run_forM_of_ok
  intro i w
  by_cases hid : (w.dll.connections i).id = -1
  · simp [World.connectionDropped, hid]
  · simp [World.connectionDropped, hid, World.handle]

/-- `cursorsDeinit` runs to its end from every state. -/
theorem run_cursorsDeinit (w : World σ) :
    (cursorsDeinit host).run w = .ok ((), w.cursorsDropped host) := by
  rw [cursorsDeinit, StateT.run_bind, run_modifyDll, ok_bind]
  apply run_forM_of_ok
  intro k w
  by_cases hid : (w.dll.cursors k).id = -1
  · simp [World.cursorDropped, hid]
  · simp [World.cursorDropped, hid]

/-- Process detach always returns. -/
theorem run_detach (w : World σ) :
    (detach host).run w = .ok ((), (w.connectionsDropped host).cursorsDropped host) := by
  rw [detach, StateT.run_bind, run_connectionsDeinit, ok_bind, run_cursorsDeinit]

/-- A turn of `CursorsDeinit` closes its slot. -/
theorem World.cursorDropped_registry (w : World σ) (k : Fin maxCursors) :
    (w.cursorDropped host k).registry = w.registry.closeCursor k := by
  by_cases hid : (w.dll.cursors k).id = -1
  · have hnone : w.registry.cursors k = none := w.dll.registry_cursors_eq_none.mpr hid
    rw [World.cursorDropped, if_neg (not_not.mpr hid), Registry.closeCursor, ← hnone,
      Function.update_eq_self]
  · rw [World.cursorDropped, if_pos hid, World.onDll_registry, deleteCursor_val,
      Dll.registry_closeCursor,
      World.dll_registry, World.commanded_registry]

/-- A turn of `ConnectionsDeinit` disconnects its slot. -/
theorem World.connectionDropped_registry (w : World σ) (i : Fin maxConnections) :
    (w.connectionDropped host i).registry = w.registry.disconnect i := by
  by_cases hid : (w.dll.connections i).id = -1
  · have hnone : w.registry.connections i = none := w.dll.registry_connections_eq_none.mpr hid
    rw [World.connectionDropped, if_neg (not_not.mpr hid), Registry.disconnect, ← hnone,
      Function.update_eq_self]
  · rw [World.connectionDropped, if_pos hid, World.onDll_registry, deleteConnection_val,
      Dll.registry_disconnect,
      World.dll_registry, World.commanded_registry]

/-- After `ConnectionsDeinit` no connection is live. -/
theorem connectionsDropped_dead (w : World σ) (i : Fin maxConnections) :
    (w.connectionsDropped host).registry.connections i = none := by
  have hall := foldl_establishes (World.connectionDropped host)
    fun i (w : World σ) => w.registry.connections i = none
  rw [World.connectionsDropped]
  apply hall _ _ _ _ i (List.mem_finRange i)
  · intro w i
    simp [World.connectionDropped_registry, Registry.disconnect]
  · intro w c d hd
    rw [World.connectionDropped_registry, Registry.disconnect]
    by_cases hdc : d = c
    · simp [hdc]
    · simpa [hdc] using hd

/-- After process detach no cursor is open. -/
theorem cursorsDropped_closed (w : World σ) (k : Fin maxCursors) :
    (w.cursorsDropped host).registry.cursors k = none := by
  have hall := foldl_establishes (World.cursorDropped host)
    fun k (w : World σ) => w.registry.cursors k = none
  rw [World.cursorsDropped]
  apply hall _ _ _ _ k (List.mem_finRange k)
  · intro w k
    simp [World.cursorDropped_registry, Registry.closeCursor]
  · intro w c d hd
    rw [World.cursorDropped_registry, Registry.closeCursor]
    by_cases hdc : d = c
    · simp [hdc]
    · simpa [hdc] using hd

/-- `CursorsDeinit` leaves the connections alone. -/
theorem cursorsDropped_connections (w : World σ) :
    (w.cursorsDropped host).registry.connections = w.registry.connections := by
  have hstart : (w.onDll (clearCursorErrors (-1))).registry.connections = w.registry.connections := by
    simp
  apply foldl_keeps (World.cursorDropped host)
    (fun u => u.registry.connections = w.registry.connections) _ _ hstart
  intro u k hu
  rw [World.cursorDropped_registry]
  exact hu

/-- The world after process detach. -/
def World.detached (w : World σ) : World σ := (w.connectionsDropped host).cursorsDropped host

/-- Process detach returns with this world. -/
theorem eq_detached_of_run {w w' : World σ} (h : (detach host).run w = .ok ((), w')) :
    w' = w.detached host := by
  rw [run_detach, Except.ok.injEq, Prod.mk.injEq] at h
  exact h.2.symm

/-- After process detach both tables are empty. -/
theorem World.detached_registry (w : World σ) : (w.detached host).registry = Registry.empty := by
  ext1
  · funext i
    rw [World.detached, cursorsDropped_connections, connectionsDropped_dead]
    rfl
  · funext k
    rw [World.detached, cursorsDropped_closed]
    rfl

end MqlMySql
