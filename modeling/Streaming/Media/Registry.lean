import Streaming.Foundation.NestedMap
import Streaming.Media.MediaInfo

/-!
# The registry of media sources

`media_sources_` leads from schema, vhost, app and stream id to a weak pointer.
Sources are numbered here; which of them are alive is not the registry's
business, so that its functions are told.
-/

namespace Streaming
namespace Media

open Foundation Util

/-- A `std::weak_ptr<media_source>`, by the number of the source. -/
abbrev SourcePtr := Nat

/-- `media_sources_`, from schema down to stream id. -/
abbrev Registry := NestedMap Bytes SourcePtr 3

def StreamKey.path (k : StreamKey) : List Bytes :=
  [k.schema, k.vhost, k.app, k.streamId]

namespace Registry

def empty : Registry := NestedMap.empty 3

def entry (m : Registry) (k : StreamKey) : Option SourcePtr :=
  NestedMap.lookup m k.path

/-- `media_source::find`: the pointer, if it can be locked, and whether there is
an entry. -/
def find (m : Registry) (alive : SourcePtr -> Bool) (k : StreamKey) :
    Except String (Option SourcePtr × Bool) :=
  if k.schema = [] ∨ k.vhost = [] ∨ k.app = [] ∨ k.streamId = [] then
    .error "cannot find media source with empty params"
  else
    match m.entry k with
    | none => .ok (none, false)
    | some s => .ok (if alive s then some s else none, true)

/-- `media_source::regist`, which the source calls with the key that its media
information has by now.  It returns early, without a new registry, when the
entry is the source's own. -/
def regist (m : Registry) (alive : SourcePtr -> Bool) (thiz : SourcePtr)
    (k : StreamKey) : Except String (Option Registry) :=
  match m.entry k with
  | none => .ok (some (NestedMap.assign m k.path thiz))
  | some s =>
      if alive s then
        if s = thiz then .ok none
        else .error "another client is trying to push source"
      else
        .ok (some (NestedMap.assign m k.path thiz))

/-- `erase_media_source`, with the source that calls it. -/
def eraseMediaSource (m : Registry) (alive : SourcePtr -> Bool)
    (thiz : SourcePtr) (k : StreamKey) : Registry :=
  NestedMap.eraseIf (fun s => !alive s || decide (s = thiz)) m k.path

/-!
## The registry as a function
-/

theorem path_ne {j k : StreamKey} (h : j ≠ k) : j.path ≠ k.path := by
  intro hpath
  cases j
  cases k
  cases hpath
  exact h rfl

@[simp] theorem empty_entry (k : StreamKey) : empty.entry k = none :=
  NestedMap.lookup_empty k.path

theorem find_ok {m : Registry} {alive : SourcePtr -> Bool} {k : StreamKey}
    {r : Option SourcePtr} {created : Bool}
    (h : m.find alive k = .ok (r, created)) :
    created = (m.entry k).isSome ∧ r = (m.entry k).filter alive := by
  unfold find at h
  split at h
  · cases h
  · split at h
    · rename_i hentry
      cases h
      rw [hentry]
      exact ⟨rfl, rfl⟩
    · rename_i s hentry
      cases h
      rw [hentry]
      exact ⟨rfl, rfl⟩

theorem find_some {m : Registry} {alive : SourcePtr -> Bool} {k : StreamKey}
    {s : SourcePtr} {created : Bool}
    (h : m.find alive k = .ok (some s, created)) :
    m.entry k = some s ∧ alive s = true := by
  have hfilter := (find_ok h).2
  exact (Option.filter_eq_some_iff.mp hfilter.symm)

theorem find_complete {m : Registry} {alive : SourcePtr -> Bool}
    {k : StreamKey} {r : Option SourcePtr} {created : Bool}
    (h : m.find alive k = .ok (r, created)) : k.Complete := by
  unfold find at h
  split at h
  · cases h
  · rename_i hparts
    simp only [not_or] at hparts
    exact hparts

/-- A registration leaves the entry of every source that is alive. -/
theorem regist_ok {m m' : Registry} {alive : SourcePtr -> Bool}
    {thiz : SourcePtr} {k : StreamKey}
    (h : m.regist alive thiz k = .ok (some m')) :
    m'.entry k = some thiz ∧
      (forall j, j ≠ k -> m'.entry j = m.entry j) ∧
      forall s, m.entry k = some s -> alive s = false := by
  have hassign : forall j, j ≠ k ->
      entry (NestedMap.assign m k.path thiz) j = m.entry j :=
    fun j hne => NestedMap.lookup_assign_ne m rfl (path_ne hne) thiz
  have hself : entry (NestedMap.assign m k.path thiz) k = some thiz :=
    NestedMap.lookup_assign_self m rfl thiz
  unfold regist at h
  split at h
  · rename_i hentry
    cases h
    refine ⟨hself, hassign, ?_⟩
    intro s hs
    cases hentry.symm.trans hs
  · rename_i s hentry
    split at h
    · split at h <;> cases h
    · rename_i hdead
      cases h
      refine ⟨hself, hassign, ?_⟩
      intro s' hs'
      cases hentry.symm.trans hs'
      exact Bool.not_eq_true _ ▸ hdead

/-- An erasure leaves the entry of every other source that is alive. -/
theorem eraseMediaSource_entry {m : Registry} {alive : SourcePtr -> Bool}
    {thiz : SourcePtr} {k j : StreamKey} {s : SourcePtr} :
    (m.eraseMediaSource alive thiz k).entry j = some s <->
      m.entry j = some s ∧ (j = k -> alive s = true ∧ s ≠ thiz) := by
  by_cases hkey : j = k
  · subst hkey
    unfold entry eraseMediaSource
    rw [NestedMap.lookup_eraseIf_self, Option.filter_eq_some_iff]
    simp
  · unfold entry eraseMediaSource
    rw [NestedMap.lookup_eraseIf_ne _ m (path_ne hkey)]
    simp [hkey]

theorem regist_noneEmpty {m m' : Registry} (hm : NestedMap.NoneEmpty m)
    {alive : SourcePtr -> Bool} {thiz : SourcePtr} {k : StreamKey}
    (h : m.regist alive thiz k = .ok (some m')) :
    NestedMap.NoneEmpty m' := by
  unfold regist at h
  split at h
  · cases h
    exact NestedMap.noneEmpty_assign hm rfl thiz
  · split at h
    · split at h <;> cases h
    · cases h
      exact NestedMap.noneEmpty_assign hm rfl thiz

theorem eraseMediaSource_noneEmpty {m : Registry}
    (hm : NestedMap.NoneEmpty m) (alive : SourcePtr -> Bool)
    (thiz : SourcePtr) (k : StreamKey) :
    NestedMap.NoneEmpty (m.eraseMediaSource alive thiz k) :=
  NestedMap.noneEmpty_eraseIf _ hm k.path

end Registry

end Media
end Streaming
