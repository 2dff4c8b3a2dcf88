import MmlScan.Pattern.CachePool
import Mathlib.Data.List.Dedup

/-!
# Each pattern is read once

Handles on caches are opened, copied and used in any order.  Every reading of a pattern has a number
of its own, and a cache keeps the result of one reading for each written form and case flag that has
been asked for through one of its handles.  So two answers come from one reading exactly if their
handles go back to one opening and the same was asked for.  Nothing is read that is not kept, and a
text that is no pattern leaves no trace.
-/

namespace MmlScan

/-! ## One cache -/

namespace PatternCache

variable {cache extended : PatternCache} {readings after : Nat} {text : Text} {ignoreCase : Bool}
  {object : SharedPattern}

theorem get?_eq_none_iff :
    cache.get? text ignoreCase = none ↔
      (text, ignoreCase) ∉ cache.entries.map (·.compiled.key) := by
  rw [get?, List.find?_eq_none, List.mem_map]
  constructor
  · rintro absent ⟨entry, member, same⟩
    rw [CompiledPattern.key, Prod.mk.injEq] at same
    exact absent entry member (by simp [same])
  · intro absent entry member same
    simp only [Bool.and_eq_true, decide_eq_true_eq] at same
    exact absent ⟨entry, member, by rw [CompiledPattern.key, same.1, same.2]⟩

/-- An answer is an entry of a cache that has stayed as it was, or the result of a reading for what
had no entry. -/
theorem request_eq_ok
    (success : cache.request readings text ignoreCase = .ok (object, extended, after)) :
    object ∈ cache.entries ∧ extended = cache ∧ after = readings ∨
      (text, ignoreCase) ∉ cache.entries.map (·.compiled.key) ∧
        extended.entries = cache.entries ++ [object] ∧ object.serial = readings ∧
        after = readings + 1 := by
  rw [request] at success
  split at success
  · next found =>
      cases success
      exact .inl ⟨List.mem_of_find?_eq_some found, rfl, rfl⟩
  · next absent =>
      rw [SharedPattern.read] at success
      cases read : CompiledPattern.ofText text ignoreCase <;> rw [read] at success <;> cases success
      exact .inr ⟨get?_eq_none_iff.mp absent, rfl, rfl, rfl⟩

end PatternCache

/-! ## Many handles -/

namespace CachePool

/-- What can be asked for: a pattern through a handle, a copy of a handle, or a handle on a cache of
its own.  Handles are numbered as they come, the first one is there from the start. -/
inductive Request where
  | compile (handle : Nat) (text : Text) (ignoreCase : Bool)
  | share (handle : Nat)
  | fresh

namespace Request

/-- The pool that a request leaves, whether it succeeds or fails. -/
def run : Request → CachePool → CachePool
  | .compile handle text ignoreCase, pool =>
      match pool.compile handle text ignoreCase with
      | .ok (_, after) => after
      | .error _ => pool
  | .share handle, pool => pool.share handle
  | .fresh, pool => pool.fresh

/-- The pool that requests leave, one after the other. -/
def runAll (requests : List Request) (pool : CachePool) : CachePool :=
  requests.foldl (fun pool request => request.run pool) pool

/-- The handles go back to those that were opened on a cache of their own.  A copy goes back to
where its original does, and an opened handle to itself. -/
def origins : Request → List Nat → List Nat
  | .compile _ _ _, origins => origins
  | .share handle, origins => origins ++ [origins.getD handle 0]
  | .fresh, origins => origins ++ [origins.length]

/-- Where all handles go back to after some requests. -/
def originsAll (requests : List Request) (origins : List Nat) : List Nat :=
  requests.foldl (fun origins request => request.origins origins) origins

/-- The request is for a handle that is there, among so many. -/
def Fits (count : Nat) : Request → Prop
  | .compile handle _ _ | .share handle => handle < count
  | .fresh => True

/-- Requests come for handles that are there by then. -/
def FitAll : List Request → List Nat → Prop
  | [], _ => True
  | request :: requests, origins =>
      request.Fits origins.length ∧ FitAll requests (request.origins origins)

end Request

/-- A pattern that was asked for, and the answer. -/
structure Compilation where
  handle : Nat
  text : Text
  ignoreCase : Bool
  answer : Except Diagnostic SharedPattern

/-- What was asked for. -/
def Compilation.key (compilation : Compilation) : Text × Bool :=
  (compilation.text, compilation.ignoreCase)

namespace Request

/-- The answer to a request for a pattern. -/
def compilation? : Request → CachePool → Option Compilation
  | .compile handle text ignoreCase, pool =>
      some ⟨handle, text, ignoreCase, (pool.compile handle text ignoreCase).map (·.1)⟩
  | .share _, _ | .fresh, _ => none

/-- The answers to all requests for patterns, in their order. -/
def compilations : List Request → CachePool → List Compilation
  | [], _ => []
  | request :: requests, pool =>
      (request.compilation? pool).toList ++ compilations requests (request.run pool)

end Request

/-! ## What a request changes -/

/-- The entries of a cache of the pool. -/
def keptIn (pool : CachePool) (store : Nat) : List SharedPattern :=
  (pool.stores.getD store .empty).entries

/-- The entries of all caches. -/
def objects (pool : CachePool) : List SharedPattern :=
  pool.stores.flatMap PatternCache.entries

/-- One more pattern has been read, and one cache keeps it. -/
structure Gains (pool after : CachePool) (store : Nat) (object : SharedPattern) : Prop where
  handles_eq : after.handles = pool.handles
  length_eq : after.stores.length = pool.stores.length
  added : after.keptIn store = pool.keptIn store ++ [object]
  others {other : Nat} (different : other ≠ store) : after.keptIn other = pool.keptIn other
  /-- The cache had no entry for what was read. -/
  absent : object.compiled.key ∉ (pool.keptIn store).map (·.compiled.key)
  readings_eq : after.readings = pool.readings + 1
  /-- The serial number is that of the reading. -/
  serial_eq : object.serial = pool.readings
  objects_perm : after.objects.Perm (object :: pool.objects)

theorem storeOf_congr {pool after : CachePool} (handles_eq : after.handles = pool.handles)
    (handle : Nat) : after.storeOf handle = pool.storeOf handle := by
  rw [storeOf, storeOf, handles_eq]

/-- Where one list of a row grows by one element, the row does. -/
theorem flatMap_set_perm {α β : Type*} {rows : List α} {elements : α → List β} {index : Nat}
    {row : α} {element : β} (within : index < rows.length)
    (grown : elements row = elements rows[index] ++ [element]) :
    ((rows.set index row).flatMap elements).Perm (element :: rows.flatMap elements) := by
  have rows_eq : rows = rows.take index ++ rows[index] :: rows.drop (index + 1) := by
    rw [List.getElem_cons_drop, List.take_append_drop]
  have set_eq : rows.set index row = rows.take index ++ row :: rows.drop (index + 1) := by
    rw [List.set_eq_take_append_cons_drop, if_pos within]
  rw [set_eq, congrArg (List.flatMap elements) rows_eq]
  simp only [List.flatMap_append, List.flatMap_cons, grown, List.append_assoc,
    List.singleton_append]
  rw [← List.append_assoc, ← List.append_assoc]
  exact List.perm_middle

section Steps

variable {pool after : CachePool} {handle store : Nat} {text : Text} {ignoreCase : Bool}
  {object : SharedPattern}

theorem map_compile (pool : CachePool) (handle : Nat) (text : Text) (ignoreCase : Bool) :
    (pool.compile handle text ignoreCase).map (·.1.compiled) =
      CompiledPattern.ofText text ignoreCase := by
  rw [← (pool.cacheOf handle).map_request pool.readings text ignoreCase, compile]
  split
  · next failure => rw [failure]; rfl
  · next success => rw [success]; rfl

theorem key_of_compile (success : pool.compile handle text ignoreCase = .ok (object, after)) :
    object.compiled.key = (text, ignoreCase) := by
  have fresh := pool.map_compile handle text ignoreCase
  rw [success] at fresh
  exact CompiledPattern.key_of_ofText fresh.symm

/-- An answer is an entry of the cache of the handle, and nothing changes, or it is read and the
cache gains it. -/
theorem compile_eq_ok (within : pool.storeOf handle < pool.stores.length)
    (success : pool.compile handle text ignoreCase = .ok (object, after)) :
    object ∈ pool.keptIn (pool.storeOf handle) ∧ after = pool ∨
      pool.Gains after (pool.storeOf handle) object := by
  have key_eq := key_of_compile success
  have cache_eq : pool.cacheOf handle = pool.stores[pool.storeOf handle] := by
    simp [cacheOf, List.getD_eq_getElem?_getD, within]
  rw [compile] at success
  split at success
  · cases success
  next cache readings request =>
  cases success
  rcases PatternCache.request_eq_ok request with
    ⟨kept, rfl, rfl⟩ | ⟨absent, entries_eq, serial_eq, rfl⟩
  · refine .inl ⟨kept, ?_⟩
    rw [cache_eq, List.set_getElem_self]
  · rw [← key_eq] at absent
    refine .inr ⟨rfl, List.length_set, ?_, fun different => ?_, absent, rfl, serial_eq, ?_⟩
    · simp [keptIn, List.getD_eq_getElem?_getD, within, entries_eq, cache_eq]
    · simp [keptIn, List.getD_eq_getElem?_getD, different.symm]
    · refine flatMap_set_perm within ?_
      rw [entries_eq, cache_eq]

/-- A request for a pattern changes nothing, or one cache gains what is read. -/
theorem run_compile_cases (within : pool.storeOf handle < pool.stores.length) :
    (Request.compile handle text ignoreCase).run pool = pool ∨
      ∃ object, pool.Gains ((Request.compile handle text ignoreCase).run pool)
        (pool.storeOf handle) object := by
  rw [Request.run]
  split
  · next object after success =>
      rcases compile_eq_ok within success with ⟨_, same⟩ | gains
      · exact .inl same
      · exact .inr ⟨object, gains⟩
  · exact .inl rfl

theorem keptIn_addStore (pool : CachePool) (store : Nat) :
    pool.addStore.keptIn store = pool.keptIn store := by
  rw [keptIn, keptIn, addStore, List.getD_eq_getElem?_getD, List.getD_eq_getElem?_getD]
  rcases Nat.lt_trichotomy store pool.stores.length with less | rfl | more
  · rw [List.getElem?_append_left less]
  · simp
  · rw [List.getElem?_eq_none (by simpa using Nat.succ_le_of_lt more),
      List.getElem?_eq_none (Nat.le_of_lt more)]

theorem objects_addStore (pool : CachePool) : pool.addStore.objects = pool.objects := by
  simp [objects, addStore, PatternCache.empty]

end Steps

/-! ## What holds after any requests -/

/-- Handles are on one cache exactly if they go back to one opening. -/
structure Linked (pool : CachePool) (origins : List Nat) : Prop where
  length_eq : pool.handles.length = origins.length
  /-- Every handle is on a cache that is there. -/
  store_lt (handle : Nat) (within : handle < origins.length) :
    pool.storeOf handle < pool.stores.length
  /-- Every handle goes back to a handle that is there. -/
  origin_lt (origin : Nat) (member : origin ∈ origins) : origin < origins.length
  same_iff (left right : Nat) (left_lt : left < origins.length)
    (right_lt : right < origins.length) :
    pool.storeOf left = pool.storeOf right ↔ origins[left]? = origins[right]?

/-- What is kept is what was answered, once for each text and flag, and each reading once. -/
structure Records (pool : CachePool) (made : List Compilation) : Prop where
  /-- The serial numbers of the entries are those of the readings. -/
  numbered : (pool.objects.map (·.serial)).Perm (List.range pool.readings)
  /-- No cache keeps two entries for one text and flag. -/
  nodup (store : Nat) : ((pool.keptIn store).map (·.compiled.key)).Nodup
  /-- An answer is kept in the cache of its handle, and it is what was asked for. -/
  stands {compilation : Compilation} {object : SharedPattern} (member : compilation ∈ made)
    (answered : compilation.answer = .ok object) :
    object ∈ pool.keptIn (pool.storeOf compilation.handle) ∧
      object.compiled.key = compilation.key
  handle_lt {compilation : Compilation} (member : compilation ∈ made) :
    compilation.handle < pool.handles.length
  /-- Every entry has been answered. -/
  answered {store : Nat} {entry : SharedPattern} (member : entry ∈ pool.keptIn store) :
    ∃ compilation ∈ made, compilation.answer = .ok entry ∧
      pool.storeOf compilation.handle = store

section Handles

variable {pool after : CachePool} {origins : List Nat} {handle : Nat}

theorem storeOf_of_handles_eq {added : List Nat}
    (handles_eq : after.handles = pool.handles ++ added) (within : handle < pool.handles.length) :
    after.storeOf handle = pool.storeOf handle := by
  rw [storeOf, storeOf, handles_eq, List.getD_eq_getElem?_getD, List.getD_eq_getElem?_getD,
    List.getElem?_append_left within]

theorem storeOf_addHandle_length (pool : CachePool) (store : Nat) :
    (pool.addHandle store).storeOf pool.handles.length = store := by
  simp [storeOf, addHandle]

/-- More caches, and what is in them, do not matter. -/
theorem Linked.of_handles_eq (linked : pool.Linked origins)
    (handles_eq : after.handles = pool.handles)
    (more : pool.stores.length ≤ after.stores.length) : after.Linked origins := by
  refine ⟨by rw [handles_eq, linked.length_eq], fun other within => ?_, linked.origin_lt,
    fun left right left_lt right_lt => ?_⟩
  · rw [storeOf_congr handles_eq]
    exact Nat.lt_of_lt_of_le (linked.store_lt other within) more
  · rw [storeOf_congr handles_eq, storeOf_congr handles_eq]
    exact linked.same_iff left right left_lt right_lt

/-- One more handle stays linked if it is on the cache of exactly those that it shares its origin
with. -/
theorem Linked.addHandle {store origin : Nat} (linked : pool.Linked origins)
    (store_lt : store < pool.stores.length) (origin_lt : origin < origins.length + 1)
    (same_iff : ∀ other < origins.length,
      pool.storeOf other = store ↔ origins[other]? = some origin) :
    (pool.addHandle store).Linked (origins ++ [origin]) := by
  have old (other : Nat) (within : other < origins.length) :
      (pool.addHandle store).storeOf other = pool.storeOf other ∧
        (origins ++ [origin])[other]? = origins[other]? :=
    ⟨storeOf_of_handles_eq rfl (by rwa [linked.length_eq]), List.getElem?_append_left within⟩
  have new : (pool.addHandle store).storeOf origins.length = store ∧
      (origins ++ [origin])[origins.length]? = some origin :=
    ⟨by rw [← linked.length_eq, storeOf_addHandle_length], by simp⟩
  refine ⟨by simp [CachePool.addHandle, linked.length_eq], fun other within => ?_,
    fun other member => ?_, fun left right left_lt right_lt => ?_⟩
  · rw [List.length_append, List.length_singleton, Nat.lt_succ_iff_lt_or_eq] at within
    rcases within with within | rfl
    · rw [(old other within).1]
      exact linked.store_lt other within
    · rw [new.1]
      exact store_lt
  · rw [List.length_append, List.length_singleton]
    rcases List.mem_append.mp member with known | added
    · exact Nat.lt_succ_of_lt (linked.origin_lt other known)
    · rw [List.mem_singleton.mp added]
      exact origin_lt
  · rw [List.length_append, List.length_singleton, Nat.lt_succ_iff_lt_or_eq] at left_lt right_lt
    rcases left_lt with left_lt | rfl <;> rcases right_lt with right_lt | rfl
    · rw [(old left left_lt).1, (old left left_lt).2, (old right right_lt).1,
        (old right right_lt).2]
      exact linked.same_iff left right left_lt right_lt
    · rw [(old left left_lt).1, (old left left_lt).2, new.1, new.2]
      exact same_iff left left_lt
    · rw [(old right right_lt).1, (old right right_lt).2, new.1, new.2, eq_comm,
        same_iff right right_lt]
      exact eq_comm
    · simp

theorem linked_single : single.Linked [0] := by
  refine ⟨rfl, ?_, ?_, ?_⟩ <;> simp [single, storeOf]

/-- Every request that fits keeps the handles linked. -/
theorem Linked.run {request : Request} (linked : pool.Linked origins)
    (fits : request.Fits origins.length) :
    (request.run pool).Linked (request.origins origins) := by
  cases request with
  | compile handle text ignoreCase =>
      rcases run_compile_cases (linked.store_lt handle fits) with same | ⟨_, gains⟩
      · rw [same]
        exact linked
      · exact linked.of_handles_eq gains.handles_eq (Nat.le_of_eq gains.length_eq.symm)
  | share handle =>
      have within : handle < origins.length := fits
      have origin_eq : origins[handle]? = some (origins.getD handle 0) := by
        simp [List.getD_eq_getElem?_getD, List.getElem?_eq_getElem within]
      refine linked.addHandle (linked.store_lt handle within) ?_ fun other other_lt => ?_
      · exact Nat.lt_succ_of_lt (linked.origin_lt _ (List.mem_of_getElem? origin_eq))
      · rw [← origin_eq]
        exact linked.same_iff other handle other_lt within
  | fresh =>
      have larger : pool.addStore.Linked origins := linked.of_handles_eq rfl (by simp [addStore])
      refine larger.addHandle (by simp [addStore]) (Nat.lt_succ_self _) fun other other_lt => ?_
      refine iff_of_false (Nat.ne_of_lt (linked.store_lt other other_lt)) fun origin_eq => ?_
      exact Nat.lt_irrefl _ (linked.origin_lt _ (List.mem_of_getElem? origin_eq))

end Handles

section Entries

variable {pool after : CachePool} {origins : List Nat} {made : List Compilation}
  {request : Request} {requests : List Request}

/-- A request takes no entry away, and every handle stays on its cache. -/
structure Extends (pool after : CachePool) : Prop where
  kept (store : Nat) : pool.keptIn store <+: after.keptIn store
  handles_le : pool.handles.length ≤ after.handles.length
  storeOf_eq {handle : Nat} (within : handle < pool.handles.length) :
    after.storeOf handle = pool.storeOf handle

theorem Extends.refl (pool : CachePool) : pool.Extends pool :=
  ⟨fun _ => List.prefix_rfl, Nat.le_refl _, fun _ => rfl⟩

theorem Extends.trans {last : CachePool} (front : pool.Extends after) (back : after.Extends last) :
    pool.Extends last :=
  ⟨fun store => (front.kept store).trans (back.kept store),
    Nat.le_trans front.handles_le back.handles_le,
    fun within =>
      (back.storeOf_eq (Nat.lt_of_lt_of_le within front.handles_le)).trans
        (front.storeOf_eq within)⟩

/-- A handle finds all that it has found. -/
theorem Extends.cacheOf (extension : pool.Extends after) {handle : Nat}
    (within : handle < pool.handles.length) :
    (pool.cacheOf handle).entries <+: (after.cacheOf handle).entries := by
  rw [CachePool.cacheOf, CachePool.cacheOf, extension.storeOf_eq within]
  exact extension.kept (pool.storeOf handle)

/-- More handles take no entry away. -/
theorem extends_of_kept {added : List Nat} (handles_eq : after.handles = pool.handles ++ added)
    (kept : ∀ store, after.keptIn store = pool.keptIn store) : pool.Extends after where
  kept store := (kept store).symm ▸ List.prefix_rfl
  handles_le := by simp [handles_eq]
  storeOf_eq := storeOf_of_handles_eq handles_eq

theorem Gains.extends {store : Nat} {object : SharedPattern}
    (gains : pool.Gains after store object) : pool.Extends after where
  kept other := by
    by_cases same : other = store
    · rw [same, gains.added]
      exact List.prefix_append _ _
    · exact (gains.others same).symm ▸ List.prefix_rfl
  handles_le := Nat.le_of_eq (by rw [gains.handles_eq])
  storeOf_eq _ := storeOf_congr gains.handles_eq _

theorem Linked.extends_run (linked : pool.Linked origins) (fits : request.Fits origins.length) :
    pool.Extends (request.run pool) := by
  cases request with
  | compile handle text ignoreCase =>
      rcases run_compile_cases (linked.store_lt handle fits) with same | ⟨_, gains⟩
      · rw [same]
        exact .refl pool
      · exact gains.extends
  | share handle => exact extends_of_kept rfl fun _ => rfl
  | fresh => exact extends_of_kept rfl pool.keptIn_addStore

/-- What is neither kept nor asked for anew is recorded as before. -/
theorem Records.of_kept (records : pool.Records made) (extension : pool.Extends after)
    (kept : ∀ store, after.keptIn store = pool.keptIn store)
    (objects_eq : after.objects = pool.objects) (readings_eq : after.readings = pool.readings) :
    after.Records made where
  numbered := by
    rw [objects_eq, readings_eq]
    exact records.numbered
  nodup store := by
    rw [kept]
    exact records.nodup store
  stands member answered := by
    rw [extension.storeOf_eq (records.handle_lt member), kept]
    exact records.stands member answered
  handle_lt member := Nat.lt_of_lt_of_le (records.handle_lt member) extension.handles_le
  answered member := by
    rw [kept] at member
    obtain ⟨compilation, earlier, answer, store_eq⟩ := records.answered member
    exact ⟨compilation, earlier, answer,
      (extension.storeOf_eq (records.handle_lt earlier)).trans store_eq⟩

theorem Records.handle_lt_append {compilation other : Compilation} (records : pool.Records made)
    (handle_lt : compilation.handle < pool.handles.length)
    (member : other ∈ made ++ [compilation]) : other.handle < pool.handles.length := by
  rcases List.mem_append.mp member with earlier | last
  · exact records.handle_lt earlier
  · rwa [List.mem_singleton.mp last]

/-- An answer that is no new entry is recorded behind the others. -/
theorem Records.append {compilation : Compilation} (records : pool.Records made)
    (handle_lt : compilation.handle < pool.handles.length)
    (stands : ∀ object, compilation.answer = .ok object →
      object ∈ pool.keptIn (pool.storeOf compilation.handle) ∧
        object.compiled.key = compilation.key) :
    pool.Records (made ++ [compilation]) where
  numbered := records.numbered
  nodup := records.nodup
  stands member answered := by
    rcases List.mem_append.mp member with earlier | last
    · exact records.stands earlier answered
    · cases List.mem_singleton.mp last
      exact stands _ answered
  handle_lt := records.handle_lt_append handle_lt
  answered member := by
    obtain ⟨other, earlier, answer⟩ := records.answered member
    exact ⟨other, List.mem_append_left _ earlier, answer⟩

/-- A new entry is recorded with its answer. -/
theorem Records.gain {compilation : Compilation} {object : SharedPattern}
    (records : pool.Records made) (handle_lt : compilation.handle < pool.handles.length)
    (answer : compilation.answer = .ok object) (key_eq : object.compiled.key = compilation.key)
    (gains : pool.Gains after (pool.storeOf compilation.handle) object) :
    after.Records (made ++ [compilation]) where
  numbered := by
    have grown := gains.objects_perm.map (·.serial)
    rw [List.map_cons, gains.serial_eq] at grown
    rw [gains.readings_eq, List.range_succ]
    exact (grown.trans (records.numbered.cons _)).trans (List.perm_append_singleton _ _).symm
  nodup store := by
    by_cases same : store = pool.storeOf compilation.handle
    · rw [same, gains.added, List.map_append, List.map_singleton]
      refine List.nodup_append.mpr ⟨records.nodup _, List.nodup_singleton _,
        fun key known last is_last => ?_⟩
      rw [List.mem_singleton.mp is_last]
      rintro rfl
      exact gains.absent known
    · rw [gains.others same]
      exact records.nodup store
  stands {other found} member answered := by
    rw [storeOf_congr gains.handles_eq]
    rcases List.mem_append.mp member with earlier | last
    · obtain ⟨kept, found_key⟩ := records.stands earlier answered
      exact ⟨(gains.extends.kept _).subset kept, found_key⟩
    · cases List.mem_singleton.mp last
      obtain rfl : object = found := Except.ok.inj (answer.symm.trans answered)
      rw [gains.added]
      exact ⟨List.mem_append_right _ (List.mem_singleton_self _), key_eq⟩
  handle_lt member := by
    rw [gains.handles_eq]
    exact records.handle_lt_append handle_lt member
  answered {store entry} member := by
    have old (known : entry ∈ pool.keptIn store) : ∃ other ∈ made ++ [compilation],
        other.answer = .ok entry ∧ after.storeOf other.handle = store := by
      obtain ⟨other, earlier, answer, store_eq⟩ := records.answered known
      exact ⟨other, List.mem_append_left _ earlier, answer,
        (storeOf_congr gains.handles_eq _).trans store_eq⟩
    by_cases same : store = pool.storeOf compilation.handle
    · rw [same, gains.added, ← same, List.mem_append, List.mem_singleton] at member
      rcases member with known | rfl
      · exact old known
      · exact ⟨compilation, List.mem_append_right _ (List.mem_singleton_self _), answer,
          (storeOf_congr gains.handles_eq _).trans same.symm⟩
    · rw [gains.others same] at member
      exact old member

/-- Every request that fits keeps the record. -/
theorem Records.run (records : pool.Records made) (linked : pool.Linked origins)
    (fits : request.Fits origins.length) :
    (request.run pool).Records (made ++ (request.compilation? pool).toList) := by
  have extension := linked.extends_run fits
  cases request with
  | compile handle text ignoreCase =>
      have handle_lt : handle < pool.handles.length := by
        rw [linked.length_eq]
        exact fits
      rw [Request.run, Request.compilation?, Option.toList_some]
      split
      · next object after success =>
          have key_eq := key_of_compile success
          rw [success]
          rcases compile_eq_ok (linked.store_lt handle fits) success with ⟨kept, rfl⟩ | gains
          · refine records.append handle_lt fun found answered => ?_
            cases answered
            exact ⟨kept, key_eq⟩
          · exact records.gain handle_lt rfl key_eq gains
      · next diagnostic failure =>
          rw [failure]
          exact records.append handle_lt fun found answered => by cases answered
  | share handle =>
      rw [Request.compilation?, Option.toList_none, List.append_nil]
      exact records.of_kept extension (fun _ => rfl) rfl rfl
  | fresh =>
      rw [Request.compilation?, Option.toList_none, List.append_nil]
      exact records.of_kept extension pool.keptIn_addStore pool.objects_addStore rfl

theorem records_single : single.Records [] := by
  have nothing (store : Nat) : single.keptIn store = [] := by
    rcases store with _ | store <;> simp [keptIn, single, PatternCache.empty]
  refine ⟨by simp [objects, single, PatternCache.empty], fun store => ?_, ?_, ?_,
    fun {store entry} member => ?_⟩
  · simp [nothing]
  · simp
  · simp
  · simp [nothing] at member

/-- Linked handles and a record of all answers stay so over any requests that fit. -/
theorem Linked.runAll (linked : pool.Linked origins) (records : pool.Records made)
    (fit : Request.FitAll requests origins) :
    (Request.runAll requests pool).Linked (Request.originsAll requests origins) ∧
      (Request.runAll requests pool).Records (made ++ Request.compilations requests pool) ∧
      pool.Extends (Request.runAll requests pool) := by
  induction requests generalizing pool origins made with
  | nil =>
      rw [Request.compilations, List.append_nil]
      exact ⟨linked, records, .refl pool⟩
  | cons request requests ih =>
      obtain ⟨fits, fit⟩ := fit
      rw [Request.compilations, ← List.append_assoc]
      obtain ⟨linked_after, records_after, extension⟩ :=
        ih (linked.run fits) (records.run linked fits) fit
      exact ⟨linked_after, records_after, (linked.extends_run fits).trans extension⟩

end Entries

/-! ## Each pattern is read once -/

/-- The texts and flags that have been answered with a pattern through handles of one origin, as
often as they were asked for. -/
def compiledThrough (origins : List Nat) (made : List Compilation) (handle : Nat) :
    List (Text × Bool) :=
  (made.filter fun compilation =>
    compilation.answer.isOk && origins[compilation.handle]? = origins[handle]?).map
      Compilation.key

/-- What requests that begin with one handle on one empty cache lead to. -/
structure ReadsOnce (requests : List Request) : Prop where
  /-- Answers are the same object, which is the result of one reading, exactly if their handles go
  back to one opening, and the text and the flag were the same. -/
  same_iff {left right : Compilation}
    (left_made : left ∈ Request.compilations requests single)
    (right_made : right ∈ Request.compilations requests single)
    {object other : SharedPattern} (left_ok : left.answer = .ok object)
    (right_ok : right.answer = .ok other) :
    object.sameAs other = true ↔
      (Request.originsAll requests [0])[left.handle]? =
          (Request.originsAll requests [0])[right.handle]? ∧
        left.text = right.text ∧ left.ignoreCase = right.ignoreCase
  /-- What is answered is what is read from the text and the flag afresh. -/
  fresh {compilation : Compilation} (made : compilation ∈ Request.compilations requests single) :
    compilation.answer.map (·.compiled) =
      CompiledPattern.ofText compilation.text compilation.ignoreCase
  /-- An answer carries the text and the flag, and its cache keeps that very object. -/
  carries {compilation : Compilation} (made : compilation ∈ Request.compilations requests single)
    {object : SharedPattern} (answered : compilation.answer = .ok object) :
    object.compiled.text = compilation.text ∧
      object.compiled.ignoreCase = compilation.ignoreCase ∧
      object ∈ ((Request.runAll requests single).cacheOf compilation.handle).entries
  /-- Nothing has been read that is not kept: there are as many readings as entries. -/
  readings_eq : (Request.runAll requests single).readings =
    (Request.runAll requests single).objects.length
  /-- A cache has one entry for each text and flag answered through its handles. -/
  size_eq (handle : Nat) (within : handle < (Request.originsAll requests [0]).length) :
    ((Request.runAll requests single).cacheOf handle).size =
      (compiledThrough (Request.originsAll requests [0]) (Request.compilations requests single)
        handle).dedup.length
  /-- Whatever is asked for later, the same objects are kept, and there are never less. -/
  grows (later : List Request) (fit : Request.FitAll later (Request.originsAll requests [0]))
    (handle : Nat) (within : handle < (Request.originsAll requests [0]).length) :
    ((Request.runAll requests single).cacheOf handle).entries <+:
        ((Request.runAll (requests ++ later) single).cacheOf handle).entries ∧
      ((Request.runAll requests single).cacheOf handle).size ≤
        ((Request.runAll (requests ++ later) single).cacheOf handle).size
  /-- A text that is refused changes nothing, and is refused through every handle from then on. -/
  refused {handle : Nat} {text : Text} {ignoreCase : Bool} {diagnostic : Diagnostic}
    (failure : (Request.runAll requests single).compile handle text ignoreCase =
      .error diagnostic) :
    (Request.compile handle text ignoreCase).run (Request.runAll requests single) =
        Request.runAll requests single ∧
      ∀ later other, (Request.runAll (requests ++ later) single).compile other text ignoreCase =
        .error diagnostic

section Memoization

variable {pool : CachePool} {origins : List Nat} {made : List Compilation}

theorem mem_keptIn_iff {store : Nat} {object : SharedPattern} :
    object ∈ pool.keptIn store ↔
      ∃ within : store < pool.stores.length, object ∈ pool.stores[store].entries := by
  rw [keptIn, List.getD_eq_getElem?_getD]
  by_cases within : store < pool.stores.length
  · simp [within]
  · simp [within, PatternCache.empty]

/-- The result of a reading is kept in one place. -/
theorem Records.eq_of_serial_eq (records : pool.Records made) {store other : Nat}
    {object found : SharedPattern} (kept : object ∈ pool.keptIn store)
    (found_kept : found ∈ pool.keptIn other) (same : object.serial = found.serial) :
    store = other ∧ object = found := by
  have numbered_once : (pool.objects.map (·.serial)).Nodup :=
    records.numbered.nodup_iff.mpr List.nodup_range
  obtain ⟨within, member⟩ := mem_keptIn_iff.mp kept
  obtain ⟨other_within, found_member⟩ := mem_keptIn_iff.mp found_kept
  obtain rfl : object = found := List.inj_on_of_nodup_map numbered_once
    (List.mem_flatMap.mpr ⟨_, List.getElem_mem within, member⟩)
    (List.mem_flatMap.mpr ⟨_, List.getElem_mem other_within, found_member⟩) same
  have disjoint := List.pairwise_iff_getElem.mp (List.nodup_flatMap.mp numbered_once.of_map).2
  rcases Nat.lt_trichotomy store other with less | rfl | more
  · exact (disjoint _ _ within other_within less member found_member).elim
  · exact ⟨rfl, rfl⟩
  · exact (disjoint _ _ other_within within more found_member member).elim

/-- Two answers are the same object exactly if they are in one cache, for one text and flag. -/
theorem Records.serial_iff (records : pool.Records made) {left right : Compilation}
    {object other : SharedPattern} (left_made : left ∈ made) (right_made : right ∈ made)
    (left_ok : left.answer = .ok object) (right_ok : right.answer = .ok other) :
    object.serial = other.serial ↔
      pool.storeOf left.handle = pool.storeOf right.handle ∧ left.key = right.key := by
  obtain ⟨left_kept, left_key⟩ := records.stands left_made left_ok
  obtain ⟨right_kept, right_key⟩ := records.stands right_made right_ok
  constructor
  · intro same
    obtain ⟨same_store, rfl⟩ := records.eq_of_serial_eq left_kept right_kept same
    exact ⟨same_store, left_key.symm.trans right_key⟩
  · rintro ⟨same_store, same_key⟩
    rw [← same_store] at right_kept
    rw [← left_key, ← right_key] at same_key
    rw [List.inj_on_of_nodup_map (records.nodup _) left_kept right_kept same_key]

theorem Records.readings_eq (records : pool.Records made) :
    pool.readings = pool.objects.length := by
  have length_eq := records.numbered.length_eq
  rw [List.length_map, List.length_range] at length_eq
  exact length_eq.symm

theorem mem_compiledThrough_iff {handle : Nat} {key : Text × Bool} :
    key ∈ compiledThrough origins made handle ↔
      ∃ compilation ∈ made, ∃ object, compilation.answer = .ok object ∧
        origins[compilation.handle]? = origins[handle]? ∧ compilation.key = key := by
  simp only [compiledThrough, List.mem_map, List.mem_filter, Bool.and_eq_true, decide_eq_true_eq]
  constructor
  · rintro ⟨compilation, ⟨member, is_ok, same⟩, key_eq⟩
    cases answer : compilation.answer with
    | ok object => exact ⟨compilation, member, object, answer, same, key_eq⟩
    | error => simp [answer, Except.isOk, Except.toBool] at is_ok
  · rintro ⟨compilation, member, object, answer, same, key_eq⟩
    exact ⟨compilation, ⟨member, by rw [answer]; rfl, same⟩, key_eq⟩

theorem Records.size_eq (records : pool.Records made) (linked : pool.Linked origins) {handle : Nat}
    (within : handle < origins.length) :
    (pool.cacheOf handle).size = (compiledThrough origins made handle).dedup.length := by
  have store_iff {compilation : Compilation} (member : compilation ∈ made) :
      pool.storeOf compilation.handle = pool.storeOf handle ↔
        origins[compilation.handle]? = origins[handle]? := by
    have handle_lt := records.handle_lt member
    rw [linked.length_eq] at handle_lt
    exact linked.same_iff _ _ handle_lt within
  have same_keys (key : Text × Bool) :
      key ∈ (pool.keptIn (pool.storeOf handle)).map (·.compiled.key) ↔
        key ∈ (compiledThrough origins made handle).dedup := by
    rw [List.mem_dedup, mem_compiledThrough_iff, List.mem_map]
    constructor
    · rintro ⟨entry, member, rfl⟩
      obtain ⟨compilation, made_member, answer, store_eq⟩ := records.answered member
      exact ⟨compilation, made_member, entry, answer, (store_iff made_member).mp store_eq,
        (records.stands made_member answer).2.symm⟩
    · rintro ⟨compilation, member, object, answer, same, rfl⟩
      obtain ⟨kept, key_eq⟩ := records.stands member answer
      rw [(store_iff member).mpr same] at kept
      exact ⟨object, kept, key_eq⟩
  have permuted := (List.perm_ext_iff_of_nodup (records.nodup _) (List.nodup_dedup _)).mpr same_keys
  rw [← permuted.length_eq, List.length_map]
  rfl

end Memoization

theorem Request.runAll_append (requests later : List Request) (pool : CachePool) :
    runAll (requests ++ later) pool = runAll later (runAll requests pool) :=
  List.foldl_append

theorem Request.fresh_of_compilations {requests : List Request} {pool : CachePool}
    {compilation : Compilation} (member : compilation ∈ compilations requests pool) :
    compilation.answer.map (·.compiled) =
      CompiledPattern.ofText compilation.text compilation.ignoreCase := by
  induction requests generalizing pool with
  | nil => simp [compilations] at member
  | cons request requests ih =>
      rcases List.mem_append.mp member with first | behind
      · cases request with
        | compile handle text ignoreCase =>
            cases List.mem_singleton.mp first
            have fresh := pool.map_compile handle text ignoreCase
            cases answer : pool.compile handle text ignoreCase <;> rw [answer] at fresh <;>
              exact fresh
        | share handle => simp [compilation?] at first
        | fresh => simp [compilation?] at first
      · exact ih behind

/-- A text that is refused is refused by every pool. -/
theorem compile_eq_error_iff {pool : CachePool} {handle : Nat} {text : Text} {ignoreCase : Bool}
    {diagnostic : Diagnostic} :
    pool.compile handle text ignoreCase = .error diagnostic ↔
      CompiledPattern.ofText text ignoreCase = .error diagnostic := by
  have fresh := pool.map_compile handle text ignoreCase
  cases answer : pool.compile handle text ignoreCase with
  | ok success => rw [answer] at fresh; simp [← fresh, Except.map]
  | error report => rw [answer] at fresh; simp [← fresh, Except.map]

/-- Whatever is asked for through handles that are there, each pattern is read once by each
cache. -/
theorem reads_once {requests : List Request} (fit : Request.FitAll requests [0]) :
    ReadsOnce requests := by
  obtain ⟨linked, records, _⟩ := linked_single.runAll records_single fit
  rw [List.nil_append] at records
  refine ⟨fun {left right} left_made right_made {object other} left_ok right_ok => ?_,
    fun made => Request.fresh_of_compilations made, fun {compilation} made {object} answered => ?_,
    records.readings_eq, fun handle within => records.size_eq linked within,
    fun later fit handle within => ?_,
    fun {handle text ignoreCase diagnostic} failure => ⟨?_, fun later other => ?_⟩⟩
  · have left_lt := records.handle_lt left_made
    have right_lt := records.handle_lt right_made
    rw [linked.length_eq] at left_lt right_lt
    rw [SharedPattern.sameAs, decide_eq_true_eq,
      records.serial_iff left_made right_made left_ok right_ok,
      linked.same_iff _ _ left_lt right_lt, Compilation.key, Compilation.key, Prod.mk.injEq]
  · obtain ⟨kept, key_eq⟩ := records.stands made answered
    obtain ⟨text_eq, flag_eq⟩ := Prod.mk.inj key_eq
    exact ⟨text_eq, flag_eq, kept⟩
  · obtain ⟨_, _, extension⟩ := linked.runAll records fit
    rw [← linked.length_eq] at within
    rw [Request.runAll_append]
    have kept := extension.cacheOf within
    exact ⟨kept, kept.length_le⟩
  · rw [Request.run, failure]
  · exact compile_eq_error_iff.mpr (compile_eq_error_iff.mp failure)

/-- The same is asked for through a handle, through its copy, and through a handle on another cache,
with both flags, and a text that is no pattern in between. -/
def mixedRequests : List Request :=
  [.compile 0 ['a'] false, .share 0, .compile 1 ['a'] false, .fresh, .compile 1 ['['] false,
   .compile 2 ['a'] false, .share 2, .compile 3 ['a'] true, .compile 0 ['['] false]

theorem reads_once_mixedRequests :
    Request.FitAll mixedRequests [0] ∧
      (Request.compilations mixedRequests single).map
          (fun compilation => compilation.answer.toOption.map (·.serial)) =
        [some 0, some 0, none, some 1, some 2, none] ∧
      ReadsOnce mixedRequests := by
  have fit : Request.FitAll mixedRequests [0] := by
    simp [mixedRequests, Request.FitAll, Request.Fits, Request.origins]
  exact ⟨fit, by decide +kernel, reads_once fit⟩

end CachePool
end MmlScan
