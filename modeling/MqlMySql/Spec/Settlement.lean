import MqlMySql.Spec.Detach
import MqlMySql.Spec.Handles
import MqlMySql.Spec.Results

/-!
# What process detach settles

Connection handles and result sets are resources which the library hands out and which have to be given
back. Two ledgers account for them: the first lists the handles of `mysql_init` and those passed to
`mysql_close`, the second the result sets. Process detach gives back exactly what the tables hold and
empties them.
-/

namespace MqlMySql

open Library

/-- The handle which a library call handed out. -/
def LibraryCall.initialises : LibraryCall → Option Mysql
  | .init answer => answer
  | _ => none

/-- The handle which a library call closed. -/
def LibraryCall.closes : LibraryCall → Option Mysql
  | .close mysql => mysql
  | _ => none

/-- The handles of the live connections. -/
def Registry.handles (t : Registry) : Occupancy maxConnections Mysql :=
  fun i => (t.connections i).bind id

variable {σ : Type}

/-- The handles returned by `mysql_init` so far. -/
def World.initialised (w : World σ) : List Mysql := w.calls.filterMap LibraryCall.initialises

/-- The handles passed to `mysql_close` so far. -/
def World.closed (w : World σ) : List Mysql := w.calls.filterMap LibraryCall.closes

/-- Every handle which was handed out was closed or is that of a live connection. -/
def HandlesAccounted (w : World σ) : Prop := Accounted w.initialised w.closed w.registry.handles

/-- The two lists of handles can be read off the record of the handles. -/
theorem World.initialised_eq (w : World σ) :
    w.initialised = w.lifecycle.filterMap LibraryCall.initialises := by
  rw [World.initialised, World.lifecycle, List.filterMap_filter]
  congr 1
  funext c
  cases c <;> rfl

/-- What was closed can be read off the record of the handles. -/
theorem World.closed_eq (w : World σ) : w.closed = w.lifecycle.filterMap LibraryCall.closes := by
  rw [World.closed, World.lifecycle, List.filterMap_filter]
  congr 1
  funext c
  cases c <;> rfl

/-- The account of the handles after some more calls. -/
theorem handlesAccounted_iff {w w' : World σ} (made : List LibraryCall)
    (lifecycle : w'.lifecycle = made ++ w.lifecycle) :
    HandlesAccounted w' ↔ Accounted (made.filterMap LibraryCall.initialises ++ w.initialised)
      (made.filterMap LibraryCall.closes ++ w.closed) w'.registry.handles := by
  rw [HandlesAccounted, w'.initialised_eq, w'.closed_eq, lifecycle, List.filterMap_append,
    List.filterMap_append, ← w.initialised_eq, ← w.closed_eq]

/-- Filling the slot of a connection fills it with its handle. -/
theorem Registry.handles_connect (t : Registry) (i : Fin maxConnections) (m : Mysql) :
    (t.connect i m).handles = Function.update t.handles i (some m) := by
  funext j
  by_cases hji : j = i
  · simp [Registry.handles, Registry.connect, hji]
  · simp [Registry.handles, Registry.connect, hji]

/-- Emptying the slot of a connection empties it for its handle. -/
theorem Registry.handles_disconnect (t : Registry) (i : Fin maxConnections) :
    (t.disconnect i).handles = Function.update t.handles i none := by
  funext j
  by_cases hji : j = i
  · simp [Registry.handles, Registry.disconnect, hji]
  · simp [Registry.handles, Registry.disconnect, hji]

section Projections

variable (w : World σ) (g : Dll → Dll) (h : σ → σ) (c : LibraryCall)

@[simp] theorem World.onDll_initialised : (w.onDll g).initialised = w.initialised := rfl
@[simp] theorem World.onDll_closed : (w.onDll g).closed = w.closed := rfl
@[simp] theorem World.commanded_initialised :
    (w.commanded h c).initialised = c.initialises.toList ++ w.initialised := by
  cases hc : c.initialises <;> simp [World.initialised, hc]
@[simp] theorem World.commanded_closed :
    (w.commanded h c).closed = c.closes.toList ++ w.closed := by
  cases hc : c.closes <;> simp [World.closed, hc]

end Projections

attribute [simp] LibraryCall.initialises LibraryCall.closes

variable {host : Host σ} {w w' w'' : World σ}

/-- Between two worlds, what the tables hold may move to the list of what was given back. -/
structure Settles (w w' : World σ) : Prop where
  initialised : w'.initialised = w.initialised
  obtained : w'.obtained = w.obtained
  closed : ∀ m, due w'.closed w'.registry.handles m = due w.closed w.registry.handles m
  released : ∀ r, due w'.released w'.registry.results r = due w.released w.registry.results r

/-- Doing nothing settles nothing. -/
theorem Settles.refl (w : World σ) : Settles w w := ⟨rfl, rfl, fun _ => rfl, fun _ => rfl⟩

/-- Settling in two steps. -/
theorem Settles.trans (h : Settles w w') (h' : Settles w' w'') : Settles w w'' where
  initialised := h'.initialised.trans h.initialised
  obtained := h'.obtained.trans h.obtained
  closed m := (h'.closed m).trans (h.closed m)
  released r := (h'.released r).trans (h.released r)

/-- Changes which leave the record and the registry alone settle nothing. -/
theorem Settles.of_same (calls : w'.calls = w.calls) (registry : w'.registry = w.registry) :
    Settles w w' := by
  constructor
  · rw [World.initialised, calls, World.initialised]
  · rw [World.obtained, calls, World.obtained]
  · intro m
    rw [World.closed, calls, registry, World.closed]
  · intro r
    rw [World.released, calls, registry, World.released]

/-- A turn of `ConnectionsDeinit` closes what its slot holds. -/
theorem Settles.connectionDropped (w : World σ) (i : Fin maxConnections) :
    Settles w (w.connectionDropped host i) := by
  have hregistry := World.connectionDropped_registry host w i
  by_cases hid : (w.dll.connections i).id = -1
  · rw [World.connectionDropped, if_neg (not_not.mpr hid)]
    exact Settles.refl w
  · have hheld : w.registry.handles i = w.handle i := by
      simp [Registry.handles, World.registry, Dll.registry, hid, World.handle]
    have hclosed : (w.connectionDropped host i).closed = (w.handle i).toList ++ w.closed := by
      rw [World.connectionDropped, if_pos hid]
      simp
    have hreleased : (w.connectionDropped host i).released = w.released := by
      rw [World.connectionDropped, if_pos hid]
      simp
    constructor
    · rw [World.connectionDropped, if_pos hid]
      simp
    · rw [World.connectionDropped, if_pos hid]
      simp
    · intro m
      rw [hclosed, hregistry, Registry.handles_disconnect, due_drop hheld]
    · intro r
      rw [hreleased, hregistry]
      rfl

/-- A turn of `CursorsDeinit` frees what its slot holds. -/
theorem Settles.cursorDropped (w : World σ) (k : Fin maxCursors) :
    Settles w (w.cursorDropped host k) := by
  have hregistry := World.cursorDropped_registry host w k
  by_cases hid : (w.dll.cursors k).id = -1
  · rw [World.cursorDropped, if_neg (not_not.mpr hid)]
    exact Settles.refl w
  · have hheld : w.registry.results k = w.recordSet k := by
      rw [Registry.results, World.cursor_of_registry hid]
      rfl
    have hreleased : (w.cursorDropped host k).released = (w.recordSet k).toList ++ w.released := by
      rw [World.cursorDropped, if_pos hid]
      simp
    have hclosed : (w.cursorDropped host k).closed = w.closed := by
      rw [World.cursorDropped, if_pos hid]
      simp
    constructor
    · rw [World.cursorDropped, if_pos hid]
      simp
    · rw [World.cursorDropped, if_pos hid]
      simp
    · intro m
      rw [hclosed, hregistry]
      rfl
    · intro r
      rw [hreleased, hregistry, Registry.results_closeCursor, due_drop hheld]

variable (host) in
/-- Process detach gives back what the tables hold. -/
theorem Settles.detached (w : World σ) : Settles w (w.detached host) := by
  have hstart : Settles w (w.onDll (clearErrors (-1))) := Settles.of_same rfl (by simp)
  have hmiddle : Settles w (w.connectionsDropped host) :=
    foldl_keeps (World.connectionDropped host) (Settles w)
      (fun u i h => h.trans (Settles.connectionDropped u i)) _ hstart
  have hcleared : Settles w ((w.connectionsDropped host).onDll (clearCursorErrors (-1))) :=
    hmiddle.trans (Settles.of_same (World.onDll_calls _ _) (by simp))
  rw [World.detached]
  exact foldl_keeps (World.cursorDropped host) (Settles w)
    (fun u k h => h.trans (Settles.cursorDropped u k)) _ hcleared

/-- A ledger of handles which is accounted for is closed by process detach. -/
theorem HandlesAccounted.detached (h : HandlesAccounted w) (m : Mysql) :
    (w.detached host).initialised.count m = (w.detached host).closed.count m := by
  have hsettles := Settles.detached host w
  have hempty : ∀ i, (w.detached host).registry.handles i = none := by
    intro i
    simp [Registry.handles, World.detached_registry, Registry.empty]
  calc (w.detached host).initialised.count m
      = w.initialised.count m := by rw [hsettles.initialised]
    _ = due w.closed w.registry.handles m := h m
    _ = due (w.detached host).closed (w.detached host).registry.handles m := (hsettles.closed m).symm
    _ = (w.detached host).closed.count m := due_empty hempty m

/-- A ledger of result sets which is accounted for is closed by process detach. -/
theorem Balanced.detached (h : Balanced w) (r : MysqlRes) :
    (w.detached host).obtained.count r = (w.detached host).released.count r := by
  have hsettles := Settles.detached host w
  have hempty : ∀ k, (w.detached host).registry.results k = none := by
    intro k
    simp [Registry.results, World.detached_registry, Registry.empty]
  calc (w.detached host).obtained.count r
      = w.obtained.count r := by rw [hsettles.obtained]
    _ = due w.released w.registry.results r := h r
    _ = due (w.detached host).released (w.detached host).registry.results r :=
      (hsettles.released r).symm
    _ = (w.detached host).released.count r := due_empty hempty r

end MqlMySql
