import Mathlib.Algebra.Order.BigOperators.Group.List
import Mathlib.Algebra.Order.Group.Nat
import Mathlib.Data.List.Perm.Subperm
import Streaming.Foundation.Amf0
import Streaming.Rtmp.Amf

/-!
# The metadata that is sent

The encoder writes the keys of a metadata map, and it means to write a value
behind each of them.  What it writes is the object without its values.
-/

namespace Streaming
namespace Rtmp

open Foundation Util

/-- What a value of AMF0 is as metadata, for the types that are kept. -/
def metaValue : Amf0 -> Any
  | .number bits => some (.double bits)
  | .boolean flag => some (.bool (decide (flag ≠ 0)))
  | .string s => some (.string s)
  | _ => none

namespace AmfEncoder

/-- The map, each value in its `std::any`. -/
def ofMap (metadata : List (Bytes × MetaValue)) : Metadata :=
  metadata.map fun e => (e.1, some e.2)

/-- The bytes are those of one object, and it has the entries of the map. -/
def Carries (bytes : Bytes) (metadata : List (Bytes × MetaValue)) : Prop :=
  exists entries, Amf0.Decodes bytes (.object entries) [] ∧
    forall key value,
      (key, value) ∈ entries.map (fun e => (e.1, metaValue e.2)) <->
        (key, value) ∈ ofMap metadata

theorem writeKey_length (buf key : Bytes) :
    (writeKey buf key).length = buf.length + (2 + key.length) := by
  simp only [writeKey, setBe16, List.length_append, List.length_cons,
    List.length_nil]
  omega

theorem writeMetadata_length (metadata : Metadata) :
    (writeMetadata [] metadata).length =
      4 + (metadata.map fun e => 2 + e.1.length).sum := by
  have hfold : forall buf : Bytes,
      (metadata.foldl (fun buf entry => writeKey buf entry.1) buf).length =
        buf.length + (metadata.map fun e => 2 + e.1.length).sum := by
    induction metadata with
    | nil => simp
    | cons entry metadata ih =>
        intro buf
        rw [List.foldl_cons, ih, List.map_cons, List.sum_cons,
          writeKey_length, Nat.add_assoc]
  unfold writeMetadata
  rw [List.length_append, writeKey_length, hfold, List.nil_append,
    List.length_singleton, List.length_singleton, List.length_nil]
  omega

theorem object_length (entries : List (Bytes × Amf0)) :
    (Amf0.object entries).encode.length =
      4 + (entries.map fun e => 2 + e.1.length + e.2.encode.length).sum := by
  have hend : Amf0.objectEnd.length = 3 := rfl
  have hentries : (Amf0.encodeEntries entries).length =
      (entries.map fun e => 2 + e.1.length + e.2.encode.length).sum :=
    Amf0.encodeEntries_length entries
  rw [Amf0.encode_object, List.length_cons, List.length_append, hentries, hend]
  omega

/-- Behind each key there is at least the marker of its value. -/
theorem keys_le_entries (entries : List (Bytes × Amf0)) :
    ((entries.map Prod.fst).map fun key => 2 + key.length).sum +
        entries.length <=
      (entries.map fun e => 2 + e.1.length + e.2.encode.length).sum := by
  induction entries with
  | nil => simp
  | cons entry entries ih =>
      have hpos : 0 < entry.2.encode.length := Nat.succ_pos _
      simp only [List.map_cons, List.sum_cons, List.length_cons]
      omega

/-- The entries of an object that has the keys of a map take more bytes than
these keys, unless there are none. -/
theorem keys_lt_entries {entries : List (Bytes × Amf0)} {keys : List Bytes}
    (hnodup : keys.Nodup) (hne : keys ≠ [])
    (hsub : keys ⊆ entries.map Prod.fst) :
    (keys.map fun key => 2 + key.length).sum <
      (entries.map fun e => 2 + e.1.length + e.2.encode.length).sum := by
  have hall := keys_le_entries entries
  have hlen : 0 < entries.length := by
    rcases List.exists_mem_of_ne_nil keys hne with ⟨key, hkey⟩
    rcases List.mem_map.mp (hsub hkey) with ⟨entry, hentry, _⟩
    exact List.length_pos_of_mem hentry
  rcases List.subperm_of_subset hnodup hsub with ⟨front, hperm, hsublist⟩
  have hfront := (hperm.map fun key : Bytes => 2 + key.length).sum_nat
  have hback := (hsublist.map fun key : Bytes => 2 + key.length).sum_le_sum
    fun _ _ => Nat.zero_le _
  omega

theorem eq_nil_of_carries {metadata : List (Bytes × MetaValue)}
    (hkeys : (metadata.map Prod.fst).Nodup)
    (h : Carries (writeMetadata [] (ofMap metadata)) metadata) :
    metadata = [] := by
  rcases h with ⟨entries, ⟨_, hbytes⟩, hsame⟩
  by_contra hne
  have hlength := congrArg List.length hbytes
  rw [List.append_nil, writeMetadata_length, object_length] at hlength
  have hsub : metadata.map Prod.fst ⊆ entries.map Prod.fst := by
    intro key hkey
    rcases List.mem_map.mp hkey with ⟨entry, hentry, rfl⟩
    have hmem := (hsame entry.1 (some entry.2)).mpr
      (List.mem_map.mpr ⟨entry, hentry, rfl⟩)
    rcases List.mem_map.mp hmem with ⟨e, he, heq⟩
    exact List.mem_map.mpr ⟨e, he, congrArg Prod.fst heq⟩
  have hlt := keys_lt_entries hkeys (by simpa using hne) hsub
  have hmap : (ofMap metadata).map (fun e => 2 + e.1.length) =
      (metadata.map Prod.fst).map fun key => 2 + key.length := by
    simp [ofMap]
  rw [hmap] at hlength
  omega

/-- The object that is sent has the entries of the map only if there are none. -/
theorem carries_iff {metadata : List (Bytes × MetaValue)}
    (hkeys : (metadata.map Prod.fst).Nodup) :
    Carries (writeMetadata [] (ofMap metadata)) metadata <-> metadata = [] := by
  constructor
  · exact eq_nil_of_carries hkeys
  · intro hempty
    subst hempty
    exact ⟨[], ⟨trivial, rfl⟩, fun key value => by simp [ofMap]⟩

/-- `duration` with the value 0. -/
def durationOnly : List (Bytes × MetaValue) :=
  [(ascii ['d', 'u', 'r', 'a', 't', 'i', 'o', 'n'], .double 0)]

theorem carries_iff_durationOnly :
    Carries (writeMetadata [] (ofMap durationOnly)) durationOnly <->
      durationOnly = [] :=
  carries_iff (by decide)

theorem not_carries_durationOnly :
    ¬ Carries (writeMetadata [] (ofMap durationOnly)) durationOnly := by
  intro h
  cases eq_nil_of_carries (by decide) h

end AmfEncoder

end Rtmp
end Streaming
