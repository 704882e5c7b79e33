import Mathlib.Data.Nat.Bitwise
import Streaming.Foundation.Ownership
import Streaming.Foundation.Run
import Streaming.Util.Bytes

/-!
# Buffers that own their storage

`buffer_raw` is a pointer to storage from `new char[]` with a size and a
capacity.  A run makes any number of them, changes them, copies and moves them
and destroys them.
-/

namespace Streaming
namespace Network

open Foundation
open Util

inductive BufferError where
  | invalidArgument
  | badAlloc
deriving DecidableEq

/-- What `new char[n]` answers: storage of that length, or nothing. -/
structure Allocator where
  answer : Nat -> Option Bytes
  length_eq : forall n storage, answer n = some storage -> storage.length = n

structure BufferRaw where
  size : Nat := 0
  capacity : Nat := 0
  data : Option Nat := none
deriving DecidableEq

namespace BufferRaw

/-- A member function has thrown or returned, and left this behind. -/
structure Ran where
  thrown : Option BufferError := none
  self : BufferRaw
  heap : Heap Bytes

def Ran.andThen (ran : Ran) (next : BufferRaw -> Heap Bytes -> Ran) : Ran :=
  match ran.thrown with
  | none => next ran.self ran.heap
  | some _ => ran

/-!
## The member functions
-/

/-- `delete[] data_; data_ = nullptr;` -/
def deleteData (r : BufferRaw) (h : Heap Bytes) : Ran where
  self := { r with data := none }
  heap :=
    match r.data with
    | some c => h.free c
    | none => h

def clean (r : BufferRaw) (h : Heap Bytes) : Ran where
  self := {}
  heap := (r.deleteData h).heap

def setSize (r : BufferRaw) (h : Heap Bytes) (size : Nat) : Ran :=
  if size > r.capacity then
    { thrown := some .invalidArgument, self := r, heap := h }
  else
    { self := { r with size := size }, heap := h }

/-- What stands behind the label `alloc`. -/
def alloc (r : BufferRaw) (h : Heap Bytes) (new : Allocator)
    (capacity : Nat) : Ran :=
  match new.answer capacity with
  | none => { thrown := some .badAlloc, self := r, heap := h }
  | some storage =>
      { self := { r with data := some h.next, capacity := capacity }
        heap := h.alloc storage }

def setCapacity (r : BufferRaw) (h : Heap Bytes) (new : Allocator)
    (capacity : Nat) : Ran :=
  if r.data = none ∧ capacity ≠ 0 then
    (r.setSize h 0).andThen fun r h => r.alloc h new capacity
  else if r.data ≠ none ∧ capacity = 0 then
    r.clean h
  else if capacity > r.capacity then
    (r.deleteData h).andThen fun r h =>
      (r.setSize h 0).andThen fun r h => r.alloc h new capacity
  else if capacity < 2 * 1024 ∨ 2 * capacity % 2 ^ 64 > r.capacity then
    { self := r, heap := h }
  else
    r.alloc h new capacity

/-- `memcpy(data_, data, data.length)`, for storage that is long enough. -/
def memcpy (r : BufferRaw) (h : Heap Bytes) (data : Bytes) : Ran where
  self := r
  heap :=
    match r.data with
    | some c =>
        h.modify c fun storage =>
          (data ++ storage.drop data.length).take storage.length
    | none => h

/-- `assign(data, size)`, with the `size` bytes that `data` points to. -/
def assign (r : BufferRaw) (h : Heap Bytes) (new : Allocator) :
    Option Bytes -> Ran
  | none => r.clean h
  | some data =>
      if data.length = 0 then
        r.clean h
      else
        (r.setCapacity h new data.length).andThen fun r h =>
          (r.memcpy h data).andThen fun r h => r.setSize h data.length

/-- The storage behind `data()`. -/
def storage (r : BufferRaw) (h : Heap Bytes) : Bytes :=
  (r.data.bind h.cells).getD []

/-- The body of the copy constructor, behind the constructor that it delegates
to: when it throws the object is destroyed. -/
def copyBody (r : BufferRaw) (h : Heap Bytes) (other : BufferRaw) : Ran :=
  if other.data ≠ none ∧ other.size ≠ 0 then
    let ran := r.setSize h other.size
    match ran.thrown with
    | none => ran.self.memcpy ran.heap ((other.storage h).take other.size)
    | some e => { ran.self.clean ran.heap with thrown := some e }
  else
    { self := r, heap := h }

def copy (other : BufferRaw) (h : Heap Bytes) (new : Allocator) : Ran :=
  (({} : BufferRaw).setCapacity h new other.capacity).andThen fun r h =>
    r.copyBody h other

end BufferRaw

/-!
## Runs
-/

/-- The buffers that exist and the heap. -/
structure Buffers where
  heap : Heap Bytes := .empty
  objs : Nat -> Option BufferRaw := fun _ => none

inductive BufferEvent where
  | construct (o capacity : Nat) (new : Allocator)
  | constructFrom (o : Nat) (data : Option Bytes) (new : Allocator)
  | copyConstruct (o other : Nat) (new : Allocator)
  | moveConstruct (o other : Nat)
  | copyAssign (o other : Nat) (new : Allocator)
  | moveAssign (o other : Nat)
  | setCapacity (o capacity : Nat) (new : Allocator)
  | setSize (o size : Nat)
  | assign (o : Nat) (data : Option Bytes) (new : Allocator)
  | clean (o : Nat)
  | destroy (o : Nat)

namespace Buffers

/-- What a constructor leaves: no object when it has thrown. -/
def constructed (w : Buffers) (o : Nat) (ran : BufferRaw.Ran) : Buffers where
  heap := ran.heap
  objs := Function.update w.objs o
    (match ran.thrown with
    | none => some ran.self
    | some _ => none)

def changed (w : Buffers) (o : Nat) (ran : BufferRaw.Ran) : Buffers where
  heap := ran.heap
  objs := Function.update w.objs o (some ran.self)

/-- The destructor. -/
def destroyed (w : Buffers) (o : Nat) (r : BufferRaw) : Buffers where
  heap := (r.clean w.heap).heap
  objs := Function.update w.objs o none

/-- `*this = buffer_raw(other)`: the temporary takes the old storage along. -/
def copyAssigned (w : Buffers) (o : Nat) (r : BufferRaw)
    (copied : BufferRaw.Ran) : Buffers :=
  match copied.thrown with
  | none =>
      { heap := (r.clean copied.heap).heap
        objs := Function.update w.objs o (some copied.self) }
  | some _ => { w with heap := copied.heap }

def step (w : Buffers) : BufferEvent -> Option Buffers
  | .construct o capacity new =>
      match w.objs o with
      | none =>
          some (w.constructed o
            (({} : BufferRaw).setCapacity w.heap new capacity))
      | some _ => none
  | .constructFrom o data new =>
      match w.objs o with
      | none =>
          some (w.constructed o (({} : BufferRaw).assign w.heap new data))
      | some _ => none
  | .copyConstruct o other new =>
      match w.objs o, w.objs other with
      | none, some s => some (w.constructed o (s.copy w.heap new))
      | _, _ => none
  | .moveConstruct o other =>
      match w.objs o, w.objs other with
      | none, some s =>
          some { w with
            objs := Function.update
              (Function.update w.objs other (some { s with data := none }))
              o (some s) }
      | _, _ => none
  | .copyAssign o other new =>
      match w.objs o, w.objs other with
      | some r, some s => some (w.copyAssigned o r (s.copy w.heap new))
      | _, _ => none
  | .moveAssign o other =>
      match w.objs o, w.objs other with
      | some _, some _ =>
          some { w with objs := fun p => w.objs (Equiv.swap o other p) }
      | _, _ => none
  | .setCapacity o capacity new =>
      (w.objs o).map fun r => w.changed o (r.setCapacity w.heap new capacity)
  | .setSize o size =>
      (w.objs o).map fun r => w.changed o (r.setSize w.heap size)
  | .assign o data new =>
      (w.objs o).map fun r => w.changed o (r.assign w.heap new data)
  | .clean o => (w.objs o).map fun r => w.changed o (r.clean w.heap)
  | .destroy o => (w.objs o).map fun r => w.destroyed o r

end Buffers

/-!
## What is asked of the buffers
-/

namespace BufferRaw

/-- The size is within the storage, and the capacity is its length. -/
structure Sound (h : Heap Bytes) (r : BufferRaw) : Prop where
  size_le : r.size <= r.capacity
  empty : r.data = none -> r.capacity = 0
  full : forall c, r.data = some c ->
    exists storage, h.cells c = some storage ∧ storage.length = r.capacity

/-- The allocations that a call of `set_capacity` may ask for go well: storage
that is too small is replaced, and storage is not replaced by a smaller one. -/
def Fits (r : BufferRaw) (new : Allocator) (capacity : Nat) : Prop :=
  r.data ≠ none ->
    (r.capacity < capacity -> new.answer capacity ≠ none) ∧
      (2 * 1024 <= capacity -> capacity <= r.capacity ->
        2 * capacity % 2 ^ 64 <= r.capacity -> new.answer capacity = none)

end BufferRaw

namespace Buffers

structure Kept (w : Buffers) : Prop where
  sound : forall o r, w.objs o = some r -> r.Sound w.heap
  freed : forall c, (w.heap.cells c).isSome = true ->
    exists o r, w.objs o = some r ∧ r.data = some c

/-- Along a run every object keeps its size within its storage, no storage is
lost, and `assign` leaves the bytes it was given. -/
structure Keeps (es : List BufferEvent) : Prop where
  states : forall front back w, es = front ++ back ->
    run step {} front = some w -> w.Kept
  assigns : forall front o data new back w r, es =
      front ++ .assign o (some data) new :: back ->
    run step {} front = some w -> w.objs o = some r -> data ≠ [] ->
      (r.assign w.heap new (some data)).thrown = none ->
        let ran := r.assign w.heap new (some data)
        ran.self.size = data.length ∧
          (ran.self.storage ran.heap).take ran.self.size = data

/-- A step that does not move from storage and asks for no allocation that
should not be made. -/
def Safe (w : Buffers) : BufferEvent -> Prop
  | .moveConstruct o other =>
      w.objs o = none -> forall r, w.objs other = some r -> r.capacity = 0
  | .setCapacity o capacity new =>
      forall r, w.objs o = some r -> r.Fits new capacity
  | .assign o (some data) new =>
      forall r, w.objs o = some r -> r.Fits new data.length
  | _ => True

end Buffers

/-!
## One object
-/

namespace BufferRaw

/-- Sound, and no storage is empty. -/
structure Intact (h : Heap Bytes) (r : BufferRaw) : Prop extends Sound h r where
  positive : r.data ≠ none -> 0 < r.capacity

/-- A call leaves an intact object, and what it no longer holds is freed. -/
structure Well (r : BufferRaw) (h : Heap Bytes) (ran : Ran) : Prop where
  intact : ran.self.Intact ran.heap
  exchange : h.Exchange ran.heap r.data ran.self.data

theorem intact_empty (h : Heap Bytes) {r : BufferRaw} (hdata : r.data = none)
    (hcapacity : r.capacity = 0) (hsize : r.size = 0) : r.Intact h where
  size_le := Nat.le_of_eq (hsize.trans hcapacity.symm)
  empty _ := hcapacity
  full c hc := by
    rw [hdata] at hc
    cases hc
  positive h := absurd hdata h

theorem Intact.live {h : Heap Bytes} {r : BufferRaw} (hr : r.Intact h) :
    forall c, r.data = some c -> (h.cells c).isSome = true := by
  intro c hc
  rcases hr.full c hc with ⟨storage, hstorage, -⟩
  rw [hstorage]
  rfl

theorem Intact.frame {h h' : Heap Bytes} {r : BufferRaw} (hr : r.Intact h)
    (hsame : forall c, r.data = some c -> h'.cells c = h.cells c) :
    r.Intact h' where
  size_le := hr.size_le
  empty := hr.empty
  full c hc := by
    rw [hsame c hc]
    exact hr.full c hc
  positive := hr.positive

theorem Intact.stays {h : Heap Bytes} {r : BufferRaw} (hr : r.Intact h)
    (thrown : Option BufferError) :
    r.Well h { thrown := thrown, self := r, heap := h } where
  intact := hr
  exchange := Heap.Exchange.refl hr.live

theorem Well.andThen {r : BufferRaw} {h : Heap Bytes} {ran : Ran}
    {next : BufferRaw -> Heap Bytes -> Ran} (hran : r.Well h ran)
    (hnext : ran.thrown = none ->
      ran.self.Well ran.heap (next ran.self ran.heap)) :
    r.Well h (ran.andThen next) := by
  unfold Ran.andThen
  split
  next hthrown =>
    have hnext := hnext hthrown
    exact ⟨hnext.intact, hran.exchange.trans hnext.exchange⟩
  next => exact hran

theorem setSize_of_le {r : BufferRaw} (h : Heap Bytes) {size : Nat}
    (hsize : size <= r.capacity) :
    r.setSize h size = { self := { r with size := size }, heap := h } :=
  if_neg (Nat.not_lt.mpr hsize)

theorem setSize_well {h : Heap Bytes} {r : BufferRaw} (hr : r.Intact h)
    (size : Nat) : r.Well h (r.setSize h size) := by
  unfold setSize
  split
  next => exact hr.stays _
  next hle =>
    constructor
    · exact { hr with size_le := Nat.not_lt.mp hle }
    · exact Heap.Exchange.refl hr.live

theorem deleteData_exchange {h : Heap Bytes} (r : BufferRaw) :
    h.Exchange (r.deleteData h).heap r.data none := by
  rcases r with ⟨size, capacity, data⟩
  cases data with
  | none => exact Heap.Exchange.refl (fun c hc => nomatch hc)
  | some c => exact h.exchange_free c

theorem clean_well (h : Heap Bytes) (r : BufferRaw) : r.Well h (r.clean h) where
  intact := intact_empty _ rfl rfl rfl
  exchange := deleteData_exchange r

/-- New storage for an object that has none. -/
theorem alloc_well {h : Heap Bytes} {r : BufferRaw} {new : Allocator}
    {capacity : Nat} {storage : Bytes} (hdata : r.data = none)
    (hsize : r.size = 0) (hpos : 0 < capacity)
    (hanswer : new.answer capacity = some storage) :
    r.Well h (r.alloc h new capacity) := by
  unfold alloc
  rw [hanswer]
  constructor
  · constructor
    · constructor
      · rw [hsize]
        exact Nat.zero_le _
      · intro hnone
        cases hnone
      · intro c hc
        cases hc
        exact ⟨storage, h.alloc_self storage, new.length_eq _ _ hanswer⟩
    · intro _
      exact hpos
  · rw [hdata]
    exact h.exchange_alloc storage

/-- `set_size(0)` goes well, and so does what follows it. -/
theorem setSize_zero_andThen (r : BufferRaw) (h : Heap Bytes)
    (next : BufferRaw -> Heap Bytes -> Ran) :
    (r.setSize h 0).andThen next = next { r with size := 0 } h := by
  rw [setSize_of_le h (Nat.zero_le _)]
  rfl

theorem setCapacity_well {h : Heap Bytes} {r : BufferRaw} {new : Allocator}
    {capacity : Nat} (hr : r.Intact h) (hfits : r.Fits new capacity) :
    r.Well h (r.setCapacity h new capacity) := by
  unfold setCapacity
  split
  next hfirst =>
    rcases hfirst with ⟨hdata, hcapacity⟩
    rw [setSize_zero_andThen]
    cases hanswer : new.answer capacity with
    | none =>
        have hsame : r.Well h { self := { r with size := 0 }, heap := h } :=
          ⟨{ hr with size_le := Nat.zero_le _ }, Heap.Exchange.refl hr.live⟩
        unfold alloc
        rw [hanswer]
        exact ⟨hsame.intact, hsame.exchange⟩
    | some storage =>
        have hwell := alloc_well (h := h) (r := { r with size := 0 }) hdata
          rfl (Nat.pos_of_ne_zero hcapacity) hanswer
        exact ⟨hwell.intact, hwell.exchange⟩
  next hfirst =>
    split
    next => exact clean_well h r
    next =>
      split
      next hgrows =>
        have hdata : r.data ≠ none := fun hdata =>
          hfirst ⟨hdata, Nat.ne_of_gt (Nat.zero_lt_of_lt hgrows)⟩
        rcases Option.ne_none_iff_exists'.mp ((hfits hdata).1 hgrows) with
          ⟨storage, hanswer⟩
        have hwell := alloc_well (h := (r.deleteData h).heap)
          (r := { r with data := none, size := 0 }) rfl rfl
          (Nat.zero_lt_of_lt hgrows) hanswer
        exact ⟨hwell.intact, (deleteData_exchange r).trans hwell.exchange⟩
      next hgrows =>
        split
        next => exact hr.stays none
        next hless =>
          rw [not_or, Nat.not_lt, Nat.not_lt] at hless
          have hdata : r.data ≠ none := fun hdata =>
            hfirst ⟨hdata, by omega⟩
          have hanswer := (hfits hdata).2 hless.1 (Nat.not_lt.mp hgrows) hless.2
          unfold alloc
          rw [hanswer]
          exact hr.stays _

/-- A call that returns leaves storage of some length. -/
def Ran.Room (capacity : Nat) (ran : Ran) : Prop :=
  ran.thrown = none -> capacity <= ran.self.capacity ∧ ran.self.data ≠ none

theorem alloc_room (h : Heap Bytes) (r : BufferRaw) (new : Allocator)
    (capacity : Nat) : (r.alloc h new capacity).Room capacity := by
  intro hok
  unfold alloc at hok ⊢
  split at hok
  · cases hok
  · exact ⟨Nat.le_refl _, Option.some_ne_none _⟩

theorem setCapacity_room (h : Heap Bytes) (r : BufferRaw) (new : Allocator)
    {capacity : Nat} (hcapacity : capacity ≠ 0) :
    (r.setCapacity h new capacity).Room capacity := by
  unfold setCapacity
  split
  next =>
    rw [setSize_zero_andThen]
    exact alloc_room h _ new capacity
  next hfirst =>
    have hdata : r.data ≠ none := fun hdata => hfirst ⟨hdata, hcapacity⟩
    rw [if_neg fun hsecond => hcapacity hsecond.2]
    split
    next => exact alloc_room _ { r with data := none, size := 0 } new capacity
    next hgrows =>
      split
      next => exact fun _ => ⟨Nat.not_lt.mp hgrows, hdata⟩
      next => exact alloc_room h r new capacity

theorem memcpy_well {h : Heap Bytes} {r : BufferRaw} (hr : r.Intact h)
    (data : Bytes) : r.Well h (r.memcpy h data) := by
  rcases r with ⟨size, capacity, _ | c⟩
  · exact ⟨hr, Heap.Exchange.refl hr.live⟩
  · rcases hr.full c rfl with ⟨storage, hstorage, hlength⟩
    constructor
    · refine { hr with full := ?_ }
      intro d hd
      cases hd
      refine ⟨_, by rw [memcpy, Heap.modify_self, hstorage, Option.map_some], ?_⟩
      have hsame : storage.length = capacity := hlength
      simp only [memcpy, List.length_take, List.length_append, List.length_drop,
        hsame]
      omega
    · exact h.exchange_modify c _ (hr.live c rfl)

/-- What was copied stands in front, and the size can be set to its length. -/
theorem memcpy_setSize {h : Heap Bytes} {r : BufferRaw} (data : Bytes)
    (hr : r.Intact h) (hroom : data.length <= r.capacity)
    (hdata : r.data ≠ none) :
    let ran := (r.memcpy h data).andThen fun r h => r.setSize h data.length
    ran.thrown = none ∧ ran.self.size = data.length ∧
      (ran.self.storage ran.heap).take ran.self.size = data := by
  rcases r with ⟨size, capacity, _ | c⟩
  · exact absurd rfl hdata
  · rcases hr.full c rfl with ⟨storage, hstorage, hlength⟩
    have hlong : data.length <= storage.length := hroom.trans hlength.ge
    have hset : (({ size := size, capacity := capacity, data := some c } :
        BufferRaw).memcpy h data).andThen (fun r h => r.setSize h data.length) =
        { self := { size := data.length, capacity := capacity, data := some c }
          heap := h.modify c fun storage =>
            (data ++ storage.drop data.length).take storage.length } :=
      setSize_of_le _ hroom
    simp only [hset, BufferRaw.storage, Option.bind_some, Heap.modify_self,
      hstorage, Option.map_some, Option.getD_some, true_and]
    rw [List.take_take, Nat.min_eq_left hlong, List.take_left]

theorem assign_well {h : Heap Bytes} {r : BufferRaw} {new : Allocator}
    {data : Bytes} (hr : r.Intact h) (hfits : r.Fits new data.length) :
    r.Well h (r.assign h new (some data)) := by
  simp only [assign]
  split
  · exact clean_well h r
  · apply (setCapacity_well hr hfits).andThen
    intro _
    apply (memcpy_well (setCapacity_well hr hfits).intact data).andThen
    intro _
    exact setSize_well
      (memcpy_well (setCapacity_well hr hfits).intact data).intact _

theorem assign_right {h : Heap Bytes} {r : BufferRaw} {new : Allocator}
    {data : Bytes} (hr : r.Intact h) (hfits : r.Fits new data.length)
    (hdata : data ≠ []) (hok : (r.assign h new (some data)).thrown = none) :
    let ran := r.assign h new (some data)
    ran.self.size = data.length ∧
      (ran.self.storage ran.heap).take ran.self.size = data := by
  have hlength : data.length ≠ 0 := fun h => hdata (List.length_eq_zero_iff.mp h)
  have hset : (r.setCapacity h new data.length).thrown = none := by
    simp only [assign, if_neg hlength] at hok
    unfold Ran.andThen at hok
    split at hok
    next hnone => exact hnone
    next hsome =>
      rw [hsome] at hok
      cases hok
  have hroom := setCapacity_room h r new hlength hset
  have hcopied := memcpy_setSize data (setCapacity_well hr hfits).intact
    hroom.1 hroom.2
  simp only [assign, if_neg hlength, Ran.andThen, hset]
  exact hcopied.2

/-!
## New objects
-/

theorem empty_fits (new : Allocator) (capacity : Nat) :
    ({} : BufferRaw).Fits new capacity :=
  fun hdata => absurd rfl hdata

theorem empty_intact (h : Heap Bytes) : ({} : BufferRaw).Intact h :=
  intact_empty h rfl rfl rfl

/-- A constructor that throws has nothing left to free. -/
def Ran.Tidy (ran : Ran) : Prop :=
  ran.thrown ≠ none -> ran.self.data = none

theorem alloc_tidy (h : Heap Bytes) {r : BufferRaw} (new : Allocator)
    (capacity : Nat) (hdata : r.data = none) :
    (r.alloc h new capacity).Tidy := by
  intro hthrown
  unfold alloc at hthrown ⊢
  split at hthrown
  · exact hdata
  · exact absurd rfl hthrown

theorem setCapacity_tidy (h : Heap Bytes) (new : Allocator) (capacity : Nat) :
    (({} : BufferRaw).setCapacity h new capacity).Tidy := by
  unfold setCapacity
  split
  next =>
    rw [setSize_zero_andThen]
    exact alloc_tidy h new capacity rfl
  next hfirst =>
    have hzero : capacity = 0 := by
      by_contra hcapacity
      exact hfirst ⟨rfl, hcapacity⟩
    subst hzero
    exact fun hthrown => absurd rfl hthrown

theorem assign_tidy (h : Heap Bytes) (new : Allocator) (data : Option Bytes) :
    (({} : BufferRaw).assign h new data).Tidy := by
  cases data with
  | none => exact fun hthrown => absurd rfl hthrown
  | some data =>
      simp only [assign]
      split
      next => exact fun hthrown => absurd rfl hthrown
      next hlength =>
        intro hthrown
        cases hset : (({} : BufferRaw).setCapacity h new data.length).thrown with
        | some e =>
            simp only [Ran.andThen, hset]
            exact setCapacity_tidy h new data.length (by simp [hset])
        | none =>
            have hroom := setCapacity_room h {} new hlength hset
            have hcopied := memcpy_setSize data
              (setCapacity_well (empty_intact h) (empty_fits new _)).intact
              hroom.1 hroom.2
            rw [Ran.andThen, hset] at hthrown
            exact absurd hcopied.1 hthrown

theorem copyBody_well {h : Heap Bytes} {r : BufferRaw} (hr : r.Intact h)
    (other : BufferRaw) : r.Well h (r.copyBody h other) := by
  have hsize := setSize_well hr other.size
  unfold copyBody
  split
  next =>
    simp only
    split
    next =>
      have hcopied := memcpy_well hsize.intact
        ((other.storage h).take other.size)
      exact ⟨hcopied.intact, hsize.exchange.trans hcopied.exchange⟩
    next =>
      have hclean := clean_well (r.setSize h other.size).heap
        (r.setSize h other.size).self
      exact ⟨hclean.intact, hsize.exchange.trans hclean.exchange⟩
  next => exact hr.stays none

theorem copy_well {h : Heap Bytes} (other : BufferRaw) (new : Allocator) :
    ({} : BufferRaw).Well h (other.copy h new) := by
  have hset := setCapacity_well (empty_intact h)
    (empty_fits new other.capacity)
  exact hset.andThen fun _ => copyBody_well hset.intact other

theorem copy_tidy (h : Heap Bytes) (other : BufferRaw) (new : Allocator) :
    (other.copy h new).Tidy := by
  unfold copy Ran.andThen
  split
  next =>
    unfold copyBody
    split
    next =>
      simp only
      split
      next => exact fun hthrown => absurd rfl hthrown
      next => exact fun _ => rfl
    next => exact fun hthrown => absurd rfl hthrown
  next => exact setCapacity_tidy h new other.capacity

end BufferRaw

/-!
## All objects
-/

namespace Buffers

def holds (w : Buffers) (o : Nat) : Option Nat :=
  (w.objs o).bind BufferRaw.data

structure Invariant (w : Buffers) : Prop where
  intact : forall o r, w.objs o = some r -> r.Intact w.heap
  accounted : Accounted w.heap w.holds

theorem Invariant.kept {w : Buffers} (hw : w.Invariant) : w.Kept where
  sound o r hr := (hw.intact o r hr).toSound
  freed c hc := by
    rcases hw.accounted.found c hc with ⟨o, ho⟩
    rcases Option.bind_eq_some_iff.mp ho with ⟨r, hr, hdata⟩
    exact ⟨o, r, hr, hdata⟩

/-- An object is put in a place or taken out of it; the others stay as they
are. -/
theorem Invariant.exchange {w : Buffers} {o : Nat} {h : Heap Bytes}
    (left : Option BufferRaw) (hw : w.Invariant)
    (hleft : forall r, left = some r -> r.Intact h)
    (hx : w.heap.Exchange h (w.holds o) (left.bind BufferRaw.data)) :
    Invariant { heap := h, objs := Function.update w.objs o left } where
  intact p r hr := by
    simp only at hr
    by_cases hp : p = o
    · rw [hp, Function.update_self] at hr
      exact hleft r hr
    · rw [Function.update_of_ne hp] at hr
      apply (hw.intact p r hr).frame
      intro c hc
      apply hw.accounted.frame hx hp
      rw [holds, hr]
      exact hc
  accounted := by
    have hholds : holds { heap := h, objs := Function.update w.objs o left } =
        Function.update w.holds o (left.bind BufferRaw.data) := by
      funext p
      simp only [holds, Function.update_apply]
      split <;> rfl
    rw [hholds]
    exact hw.accounted.exchange hx

theorem Invariant.changed {w : Buffers} {o : Nat} {r : BufferRaw}
    {ran : BufferRaw.Ran} (hw : w.Invariant) (hr : w.objs o = some r)
    (hran : r.Well w.heap ran) : (w.changed o ran).Invariant := by
  apply hw.exchange (some ran.self)
  · intro s hs
    cases hs
    exact hran.intact
  · rw [holds, hr]
    exact hran.exchange

theorem Invariant.constructed {w : Buffers} {o : Nat} {ran : BufferRaw.Ran}
    (hw : w.Invariant) (ho : w.objs o = none)
    (hran : ({} : BufferRaw).Well w.heap ran) (htidy : ran.Tidy) :
    (w.constructed o ran).Invariant := by
  apply hw.exchange
  · intro s hs
    split at hs
    · cases hs
      exact hran.intact
    · cases hs
  · rw [holds, ho]
    split
    next => exact hran.exchange
    next e hthrown =>
      have hdata := htidy (by rw [hthrown]; exact Option.some_ne_none e)
      have hx := hran.exchange
      rw [hdata] at hx
      exact hx

theorem Invariant.destroyed {w : Buffers} {o : Nat} {r : BufferRaw}
    (hw : w.Invariant) (hr : w.objs o = some r) :
    (w.destroyed o r).Invariant := by
  apply hw.exchange none
  · intro s hs
    cases hs
  · rw [holds, hr]
    exact BufferRaw.deleteData_exchange r

theorem Invariant.copyAssigned {w : Buffers} {o : Nat} {r : BufferRaw}
    {copied : BufferRaw.Ran} (hw : w.Invariant) (hr : w.objs o = some r)
    (hcopied : ({} : BufferRaw).Well w.heap copied) (htidy : copied.Tidy) :
    (w.copyAssigned o r copied).Invariant := by
  have hlive := hw.accounted.live o
  have hold : copied.heap.Exchange (r.clean copied.heap).heap (w.holds o)
      none := by
    rw [holds, hr]
    exact BufferRaw.deleteData_exchange r
  unfold Buffers.copyAssigned
  split
  next =>
    apply hw.exchange (some copied.self)
    · intro s hs
      cases hs
      apply hcopied.intact.frame
      intro c hc
      exact hold.others c (hcopied.exchange.apart hlive hc) (by simp)
    · exact hcopied.exchange.replace hold hlive
  next e hthrown =>
    have hdata := htidy (by rw [hthrown]; exact Option.some_ne_none e)
    have hsame : forall c, copied.heap.cells c = w.heap.cells c := by
      intro c
      apply hcopied.exchange.others c (by simp)
      rw [hdata]
      simp
    have hx : w.heap.Exchange copied.heap (w.holds o)
        ((w.objs o).bind BufferRaw.data) :=
      .of_same hsame hlive
    have hsound := hw.exchange _ (fun s hs =>
      (hw.intact o s hs).frame fun c _ => hsame c) hx
    rw [Function.update_eq_self] at hsound
    exact hsound

/-- Two objects trade places. -/
theorem Invariant.swapped {w : Buffers} (hw : w.Invariant) (o other : Nat) :
    Invariant { w with objs := fun p => w.objs (Equiv.swap o other p) } where
  intact _ _ hr := hw.intact _ _ hr
  accounted := hw.accounted.permute (Equiv.swap o other)

/-- Moving from an object without storage leaves two of them. -/
theorem Invariant.moved {w : Buffers} {o other : Nat} {s : BufferRaw}
    (hw : w.Invariant) (ho : w.objs o = none) (hs : w.objs other = some s)
    (hcapacity : s.capacity = 0) :
    Invariant { w with
      objs := Function.update
        (Function.update w.objs other (some { s with data := none }))
        o (some s) } := by
  have hdata : s.data = none := by
    by_contra hdata
    exact absurd ((hw.intact other s hs).positive hdata) (by omega)
  have hother : Function.update w.objs other (some { s with data := none }) =
      w.objs := by
    rw [← hdata, ← hs, Function.update_eq_self]
  rw [hother]
  apply hw.exchange (some s)
  · intro r hr
    cases hr
    exact hw.intact other s hs
  · rw [holds, ho, Option.bind_some, hdata]
    exact Heap.Exchange.refl fun c hc => nomatch hc

theorem Invariant.step {w w' : Buffers} {e : BufferEvent} (hw : w.Invariant)
    (hsafe : w.Safe e) (h : w.step e = some w') : w'.Invariant := by
  cases e with
  | construct o capacity new =>
      simp only [Buffers.step] at h
      split at h <;> cases h
      next ho =>
        exact hw.constructed ho
          (BufferRaw.setCapacity_well (BufferRaw.empty_intact _)
            (BufferRaw.empty_fits new capacity))
          (BufferRaw.setCapacity_tidy _ new capacity)
  | constructFrom o data new =>
      simp only [Buffers.step] at h
      split at h <;> cases h
      next ho =>
        apply hw.constructed ho _ (BufferRaw.assign_tidy _ new data)
        cases data with
        | none => exact BufferRaw.clean_well _ _
        | some data =>
            exact BufferRaw.assign_well (BufferRaw.empty_intact _)
              (BufferRaw.empty_fits new data.length)
  | copyConstruct o other new =>
      simp only [Buffers.step] at h
      split at h <;> cases h
      next s ho hs =>
        exact hw.constructed ho (BufferRaw.copy_well s new)
          (BufferRaw.copy_tidy _ s new)
  | moveConstruct o other =>
      simp only [Buffers.step] at h
      split at h <;> cases h
      next s ho hs => exact hw.moved ho hs (hsafe ho s hs)
  | copyAssign o other new =>
      simp only [Buffers.step] at h
      split at h <;> cases h
      next r s hr hs =>
        exact hw.copyAssigned hr (BufferRaw.copy_well s new)
          (BufferRaw.copy_tidy _ s new)
  | moveAssign o other =>
      simp only [Buffers.step] at h
      split at h <;> cases h
      exact hw.swapped o other
  | setCapacity o capacity new =>
      rcases Option.map_eq_some_iff.mp h with ⟨r, hr, rfl⟩
      exact hw.changed hr
        (BufferRaw.setCapacity_well (hw.intact o r hr) (hsafe r hr))
  | setSize o size =>
      rcases Option.map_eq_some_iff.mp h with ⟨r, hr, rfl⟩
      exact hw.changed hr (BufferRaw.setSize_well (hw.intact o r hr) size)
  | assign o data new =>
      rcases Option.map_eq_some_iff.mp h with ⟨r, hr, rfl⟩
      apply hw.changed hr
      cases data with
      | none => exact BufferRaw.clean_well _ r
      | some data =>
          exact BufferRaw.assign_well (hw.intact o r hr) (hsafe r hr)
  | clean o =>
      rcases Option.map_eq_some_iff.mp h with ⟨r, hr, rfl⟩
      exact hw.changed hr (BufferRaw.clean_well _ r)
  | destroy o =>
      rcases Option.map_eq_some_iff.mp h with ⟨r, hr, rfl⟩
      exact hw.destroyed hr

end Buffers

/-!
## What other steps leave behind
-/

namespace BufferRaw

/-- An object with a capacity and no storage, or storage that nobody holds. -/
def Ran.Broken (r : BufferRaw) (ran : Ran) : Prop :=
  (ran.self.data = none ∧ ran.self.capacity ≠ 0) ∨
    exists c, r.data = some c ∧ ran.self.data ≠ some c ∧
      (ran.heap.cells c).isSome = true

theorem setCapacity_grows {r : BufferRaw} (h : Heap Bytes) (new : Allocator)
    {capacity : Nat} (hdata : r.data ≠ none) (hgrows : r.capacity < capacity) :
    r.setCapacity h new capacity =
      BufferRaw.alloc { r with data := none, size := 0 } (r.deleteData h).heap
        new capacity := by
  unfold setCapacity
  rw [if_neg fun hfirst => hdata hfirst.1,
    if_neg fun hsecond => Nat.ne_of_gt (Nat.zero_lt_of_lt hgrows) hsecond.2,
    if_pos hgrows]
  exact setSize_zero_andThen (r.deleteData h).self (r.deleteData h).heap
    fun r h => r.alloc h new capacity

theorem setCapacity_replaces {r : BufferRaw} (h : Heap Bytes) (new : Allocator)
    {capacity : Nat} (hdata : r.data ≠ none) (hlarge : 2 * 1024 <= capacity)
    (hwithin : capacity <= r.capacity)
    (hhalf : 2 * capacity % 2 ^ 64 <= r.capacity) :
    r.setCapacity h new capacity = r.alloc h new capacity := by
  unfold setCapacity
  rw [if_neg fun hfirst => hdata hfirst.1,
    if_neg fun hsecond => by omega,
    if_neg (Nat.not_lt.mpr hwithin), if_neg (by omega)]

theorem setCapacity_broken {h : Heap Bytes} {r : BufferRaw} {new : Allocator}
    {capacity : Nat} (hr : r.Intact h) (hfits : ¬ r.Fits new capacity) :
    (r.setCapacity h new capacity).Broken r := by
  rcases not_forall.mp hfits with ⟨hdata, hfits⟩
  rcases not_and_or.mp hfits with hfails | hreplaces
  · -- the old storage is deleted and there is no new one
    rcases not_forall.mp hfails with ⟨hgrows, hanswer⟩
    rw [setCapacity_grows h new hdata hgrows, alloc, not_not.mp hanswer]
    exact Or.inl ⟨rfl, Nat.ne_of_gt (hr.positive hdata)⟩
  · -- there is new storage and the old one is still in use
    simp only [not_forall] at hreplaces
    rcases hreplaces with ⟨hlarge, hwithin, hhalf, hanswer⟩
    rcases Option.ne_none_iff_exists'.mp hanswer with ⟨storage, hstorage⟩
    rcases Option.ne_none_iff_exists'.mp hdata with ⟨c, hc⟩
    have hlive := hr.live c hc
    have hother : c ≠ h.next := by
      intro heq
      rw [heq, h.next_free] at hlive
      cases hlive
    rw [setCapacity_replaces h new hdata hlarge hwithin hhalf, alloc, hstorage]
    refine Or.inr ⟨c, hc, ?_, ?_⟩
    · intro heq
      exact hother (Option.some.inj heq).symm
    · rw [h.alloc_other storage hother]
      exact hlive

theorem memcpy_broken {h : Heap Bytes} {r s : BufferRaw} (data : Bytes)
    (hbroken : Ran.Broken r { self := s, heap := h }) :
    (s.memcpy h data).Broken r := by
  rcases hbroken with hempty | ⟨c, hc, hlost, hlive⟩
  · exact Or.inl hempty
  · refine Or.inr ⟨c, hc, hlost, ?_⟩
    rcases s with ⟨size, capacity, _ | d⟩
    · exact hlive
    · have hother : c ≠ d := fun heq => hlost (congrArg some heq.symm)
      rw [memcpy, h.modify_other _ hother]
      exact hlive

theorem setSize_broken {h : Heap Bytes} {r s : BufferRaw} (size : Nat)
    (hbroken : Ran.Broken r { self := s, heap := h }) :
    (s.setSize h size).Broken r := by
  unfold setSize
  split
  · exact hbroken
  · exact hbroken

theorem assign_broken {h : Heap Bytes} {r : BufferRaw} {new : Allocator}
    {data : Bytes} (hr : r.Intact h) (hfits : ¬ r.Fits new data.length) :
    (r.assign h new (some data)).Broken r := by
  have hbroken := setCapacity_broken hr hfits
  simp only [assign]
  split
  next hlength =>
    rw [hlength] at hfits
    exact absurd (fun _ => ⟨by simp, by omega⟩) hfits
  next =>
    unfold Ran.andThen
    split
    next => exact setSize_broken _ (memcpy_broken data hbroken)
    next => exact hbroken

end BufferRaw

namespace Buffers

theorem Kept.unbroken {w : Buffers} {o : Nat} {r : BufferRaw}
    {ran : BufferRaw.Ran} (hw : w.Invariant) (hr : w.objs o = some r)
    (hkept : (w.changed o ran).Kept) : ¬ ran.Broken r := by
  have ho : (w.changed o ran).objs o = some ran.self :=
    Function.update_self _ _ _
  intro hbroken
  rcases hbroken with ⟨hdata, hcapacity⟩ | ⟨c, hc, hlost, hlive⟩
  · exact hcapacity ((hkept.sound o _ ho).empty hdata)
  · rcases hkept.freed c hlive with ⟨p, s, hs, hsc⟩
    by_cases hp : p = o
    · rw [hp, ho] at hs
      cases hs
      exact hlost hsc
    · have hs' : w.objs p = some s := by
        rw [← hs]
        exact (Function.update_of_ne hp _ _).symm
      apply hp
      apply hw.accounted.sole p o c
      · rw [holds, hs']
        exact hsc
      · rw [holds, hr]
        exact hc

theorem Kept.safe {w w' : Buffers} {e : BufferEvent} (hw : w.Invariant)
    (h : w.step e = some w') (hkept : w'.Kept) : w.Safe e := by
  cases e with
  | moveConstruct o other =>
      intro ho s hs
      simp only [Buffers.step, ho, hs] at h
      cases h
      have hne : other ≠ o := by
        intro heq
        rw [heq, ho] at hs
        cases hs
      apply (hkept.sound other { s with data := none } _).empty rfl
      simp only
      rw [Function.update_of_ne hne, Function.update_self]
  | setCapacity o capacity new =>
      intro r hr
      rcases Option.map_eq_some_iff.mp h with ⟨s, hs, rfl⟩
      cases hr.symm.trans hs
      by_contra hfits
      exact hkept.unbroken hw hr
        (BufferRaw.setCapacity_broken (hw.intact o r hr) hfits)
  | assign o data new =>
      cases data with
      | none => trivial
      | some data =>
          intro r hr
          rcases Option.map_eq_some_iff.mp h with ⟨s, hs, rfl⟩
          cases hr.symm.trans hs
          by_contra hfits
          exact hkept.unbroken hw hr
            (BufferRaw.assign_broken (hw.intact o r hr) hfits)
  | _ => trivial

/-- An event that cannot happen is none that goes wrong. -/
theorem safe_of_stuck {w : Buffers} {e : BufferEvent} (h : w.step e = none) :
    w.Safe e := by
  cases e with
  | moveConstruct o other =>
      intro ho s hs
      simp only [Buffers.step, ho, hs] at h
      cases h
  | setCapacity o capacity new =>
      intro r hr
      simp only [Buffers.step, hr] at h
      cases h
  | assign o data new =>
      cases data with
      | none => trivial
      | some data =>
          intro r hr
          simp only [Buffers.step, hr] at h
          cases h
  | _ => trivial

theorem start_invariant : Invariant {} where
  intact _ _ h := nomatch h
  accounted :=
    { live := fun _ _ h => nomatch h
      sole := fun _ _ _ h => nomatch h
      found := fun _ h => nomatch h }

/-- The buffers keep their sizes within their storage and lose none of it just in
the runs whose steps are all safe. -/
theorem keeps_iff_safe (es : List BufferEvent) :
    Keeps es <-> Meets Safe step {} es := by
  constructor
  · intro h
    exact meets_of_good_front Invariant.step Kept.safe safe_of_stuck
      start_invariant h.states
  · intro h
    have hinvariant : forall {front back w}, es = front ++ back ->
        run step {} front = some w -> w.Invariant := by
      intro front back w hes hfront
      rw [hes] at h
      exact run_keeps_of_meets Safe Invariant.step start_invariant h.front
        hfront
    constructor
    · intro front back w hes hfront
      exact (hinvariant hes hfront).kept
    · intro front o data new back w r hes hfront hr hdata hok
      have hsafe := h front _ back w hes hfront
      exact BufferRaw.assign_right ((hinvariant hes hfront).intact o r hr)
        (hsafe r hr) hdata hok

/-- `new char[n]` that always finds memory. -/
def ample : Allocator where
  answer n := some (List.replicate n 0)
  length_eq n storage h := by
    cases h
    exact List.length_replicate

/-- 4096 bytes in use, and the capacity set to 2048. -/
def shrinking : List BufferEvent :=
  [.construct 0 4096 ample, .setSize 0 4096, .setCapacity 0 2048 ample]

theorem not_keeps_shrinking : ¬ Keeps shrinking := by
  intro h
  have hkept := h.states shrinking [] _ (List.append_nil _).symm rfl
  have hsize := (hkept.sound 0 _ rfl).size_le
  exact absurd hsize (by decide)

end Buffers

end Network
end Streaming
