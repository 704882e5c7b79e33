import Streaming.Foundation.Bits
import Streaming.Foundation.Frame

/-!
# Reading bit strings

A source of bits is a state with the bits that are still to come.  What a
reader makes of the bits in front of it is put together from what its parts
make of them.
-/

namespace Streaming
namespace Foundation

/-- The bits that a state has not handed out yet, where it is a sound one. -/
structure BitSource (state : Type) where
  sound : state -> Prop
  unread : state -> List Bool

variable {error state value result : Type}

namespace BitSource

/-- Wherever the bits come next, the reader takes just them for the value. -/
def Reads (src : BitSource state) (m : EStateM error state value)
    (bits : List Bool) (a : value) : Prop :=
  forall s rest, src.sound s -> src.unread s = bits ++ rest ->
    exists t, m s = .ok a t ∧ src.sound t ∧ src.unread t = rest

/-- Where these are the last bits, the reader takes them for the value.  It
need not take all of them. -/
def Finishes (src : BitSource state) (m : EStateM error state value)
    (bits : List Bool) (a : value) : Prop :=
  forall s, src.sound s -> src.unread s = bits ->
    exists t, m s = .ok a t ∧ src.sound t

section Reads

variable {src : BitSource state} {m : EStateM error state value}
  {f : value -> EStateM error state result} {bits bits' : List Bool}
  {a : value} {b : result}

theorem Reads.pure (a : value) :
    src.Reads (Pure.pure a : EStateM error state value) [] a :=
  fun s _ hs hunread => ⟨s, rfl, hs, hunread⟩

theorem Reads.bind (hm : src.Reads m bits a) (hf : src.Reads (f a) bits' b) :
    src.Reads (m >>= f) (bits ++ bits') b := by
  intro s rest hs hunread
  rw [List.append_assoc] at hunread
  rcases hm s _ hs hunread with ⟨t, hfirst, ht, hbetween⟩
  rcases hf t _ ht hbetween with ⟨u, hsecond, hu, hrest⟩
  exact ⟨u, (bind_of_ok hfirst).trans hsecond, hu, hrest⟩

theorem Reads.get {f : state -> EStateM error state result}
    (hf : forall s, src.sound s -> src.Reads (f s) bits b) :
    src.Reads (MonadState.get >>= f) bits b :=
  fun s rest hs hunread => hf s hs s rest hs hunread

theorem Reads.finishes (hm : src.Reads m bits a) :
    src.Finishes m (bits ++ bits') a := by
  intro s hs hunread
  rcases hm s bits' hs hunread with ⟨t, hresult, ht, _⟩
  exact ⟨t, hresult, ht⟩

theorem Finishes.pure (a : value) :
    src.Finishes (Pure.pure a : EStateM error state value) bits a :=
  fun s hs _ => ⟨s, rfl, hs⟩

theorem Finishes.bind (hm : src.Reads m bits a)
    (hf : src.Finishes (f a) bits' b) :
    src.Finishes (m >>= f) (bits ++ bits') b := by
  intro s hs hunread
  rcases hm s _ hs hunread with ⟨t, hfirst, ht, hbetween⟩
  rcases hf t ht hbetween with ⟨u, hsecond, hu⟩
  exact ⟨u, (bind_of_ok hfirst).trans hsecond, hu⟩

theorem Finishes.get {f : state -> EStateM error state result}
    (hf : forall s, src.sound s -> src.unread s = bits ->
      src.Finishes (f s) bits b) :
    src.Finishes (MonadState.get >>= f) bits b :=
  fun s hs hunread => hf s hs hunread s hs hunread

end Reads

end BitSource

/-!
## What every input leads to
-/

/-- From a state with the invariant the reader returns a value that meets the
condition and keeps the invariant, or it fails in a way that is allowed. -/
def Yields (inv : state -> Prop) (allowed : error -> Prop)
    (m : EStateM error state value) (post : value -> Prop) : Prop :=
  forall s, inv s ->
    match m s with
    | .ok a t => inv t ∧ post a
    | .error e _ => allowed e

namespace Yields

variable {inv : state -> Prop} {allowed : error -> Prop}

theorem pure {post : value -> Prop} {a : value} (h : post a) :
    Yields inv allowed (Pure.pure a : EStateM error state value) post :=
  fun _ hs => ⟨hs, h⟩

theorem throw {post : value -> Prop} {e : error} (h : allowed e) :
    Yields inv allowed (MonadExcept.throw e : EStateM error state value) post :=
  fun _ _ => h

theorem get : Yields inv allowed
    (MonadState.get : EStateM error state state) inv :=
  fun _ hs => ⟨hs, hs⟩

theorem bind {m : EStateM error state value}
    {f : value -> EStateM error state result} {between : value -> Prop}
    {post : result -> Prop} (hm : Yields inv allowed m between)
    (hf : forall a, between a -> Yields inv allowed (f a) post) :
    Yields inv allowed (m >>= f) post := by
  intro s hs
  have hfirst := hm s hs
  cases hresult : m s with
  | ok a t =>
      simp only [hresult] at hfirst
      rw [bind_of_ok hresult]
      exact hf a hfirst.2 t hfirst.1
  | error e t =>
      simp only [hresult] at hfirst
      rw [bind_of_error hresult]
      exact hfirst

theorem ite {c : Prop} [Decidable c] {m n : EStateM error state value}
    {post : value -> Prop} (hm : c -> Yields inv allowed m post)
    (hn : ¬ c -> Yields inv allowed n post) :
    Yields inv allowed (if c then m else n) post := by
  split
  · rename_i h
    exact hm h
  · rename_i h
    exact hn h

theorem mono {m : EStateM error state value} {post post' : value -> Prop}
    (hm : Yields inv allowed m post) (h : forall a, post a -> post' a) :
    Yields inv allowed m post' := by
  intro s hs
  have hend := hm s hs
  cases hresult : m s with
  | ok a t =>
      simp only [hresult] at hend
      exact ⟨hend.1, h a hend.2⟩
  | error e t =>
      simp only [hresult] at hend
      exact hend

end Yields

end Foundation
end Streaming
