import Mathlib.Data.List.Basic
/-!
# Frames — a state that is looked at part by part

`get s i` is part `i` of the state `s`.  The frame of a step are the parts that it may change (`WithinFrame`): every other
part stays, and what a part becomes depends on nothing but what it was.  Two runs that differ in one step agree on every part
outside its frame.
-/
namespace Kit

variable {σ ι : Type} {V : ι → Type} {get : σ → (i : ι) → V i}

variable (get) in
/-- **The step changes nothing but these parts**, and each of them only by what it was. -/
structure WithinFrame (f : σ → σ) (W : ι → Prop) : Prop where
  keeps : ∀ i, ¬ W i → ∀ s, get (f s) i = get s i
  follows : ∀ i s t, get s i = get t i → get (f s) i = get (f t) i

variable (get) in
def SameAt (f g : σ → σ) (i : ι) : Prop := ∀ s t, get s i = get t i → get (f s) i = get (g t) i

theorem WithinFrame.of_writes {f : σ → σ} {W : ι → Prop} (hkeeps : ∀ i, ¬ W i → ∀ s, get (f s) i = get s i)
    (hwrites : ∀ i, W i → ∀ s t, get (f s) i = get (f t) i) : WithinFrame get f W where
  keeps := hkeeps
  follows i s t h := by
    by_cases hi : W i
    · exact hwrites i hi s t
    · rw [hkeeps i hi, hkeeps i hi, h]

theorem WithinFrame.id : WithinFrame get (fun s : σ => s) fun _ => False where
  keeps _ _ _ := rfl
  follows _ _ _ h := h

theorem WithinFrame.mono {f : σ → σ} {W W' : ι → Prop} (h : WithinFrame get f W) (hW : ∀ i, W i → W' i) :
    WithinFrame get f W' where
  keeps i hi := h.keeps i fun hw => hi (hW i hw)
  follows := h.follows

theorem WithinFrame.comp {f g : σ → σ} {W W' : ι → Prop} (hg : WithinFrame get g W') (hf : WithinFrame get f W) :
    WithinFrame get (fun s => g (f s)) fun i => W i ∨ W' i where
  keeps i hi s := by rw [hg.keeps i fun hw => hi (.inr hw), hf.keeps i fun hw => hi (.inl hw)]
  follows i s t h := hg.follows i _ _ (hf.follows i s t h)

theorem WithinFrame.sameAt {f : σ → σ} {W : ι → Prop} (h : WithinFrame get f W) (i : ι) : SameAt get f f i :=
  h.follows i

theorem SameAt.of_keeps {f g : σ → σ} {W W' : ι → Prop} {i : ι} (hf : WithinFrame get f W) (hg : WithinFrame get g W')
    (hW : ¬ W i) (hW' : ¬ W' i) : SameAt get f g i := fun s t h => by
  rw [hf.keeps i hW, hg.keeps i hW', h]

theorem SameAt.foldl {α : Type} {f g : α → σ → σ} {i : ι} (h : ∀ a, SameAt get (f a) (g a) i) (l : List α) :
    SameAt get (fun s => l.foldl (fun s a => f a s) s) (fun s => l.foldl (fun s a => g a s) s) i := by
  induction l with
  | nil => exact fun s t hst => hst
  | cons a l ih => exact fun s t hst => ih _ _ (h a s t hst)

end Kit
