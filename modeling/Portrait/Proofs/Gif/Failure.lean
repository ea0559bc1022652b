import Portrait.Gif.Animation

/-!
# How decoding a GIF can fail

Decoding stops at the first thing that is wrong: something in the blocks of the file, or the first
frame that is too large or whose pixel data cannot be decoded. Of these, only a frame that is too
large is not reported as an error of the format.

* `CodedFrame.IsOversize`, `CodedFrame.IsBroken` — what can be wrong with a frame.
* `Meets` — the first frame that is not in order has a given fault.
* `decode_cases`, `decodeFrames_cases` — what becomes of one frame, and of several.

Main statement: `decode_outcome`. The file `vastFile` shows that its exception is needed.
-/

set_option autoImplicit false

namespace Portrait.Gif

/-! ## Frames -/

namespace CodedFrame

/-- The frame has more pixels than are ever decoded. -/
def IsOversize (f : CodedFrame) : Prop := pixelLimit < f.width * f.height

/-- The pixel data of the frame cannot be decoded. -/
def IsBroken (f : CodedFrame) : Prop :=
  Lzw.decode? f.minCodeSize.toNat (f.width * f.height) f.chunks.flatten = none

def IsSound (f : CodedFrame) : Prop := ¬ f.IsOversize ∧ ¬ f.IsBroken

/-- What becomes of a frame. Its size is looked at before its pixel data. -/
theorem decode_cases (f : CodedFrame) :
    (f.IsOversize ∧ f.decode = .error .tooManyPixels) ∨
      (¬ f.IsOversize ∧ f.IsBroken ∧ f.decode = .error (.format .undecodableFrame)) ∨
      (f.IsSound ∧ ∃ image, f.decode = .ok image) := by
  unfold CodedFrame.decode
  by_cases hsize : pixelLimit < f.width * f.height
  · exact .inl ⟨hsize, if_pos hsize⟩
  rw [if_neg hsize]
  cases hcells : Lzw.decode? f.minCodeSize.toNat (f.width * f.height) f.chunks.flatten with
  | none => exact .inr (.inl ⟨hsize, hcells, rfl⟩)
  | some cells =>
    have hbroken : ¬ f.IsBroken := fun h => Option.some_ne_none cells (hcells.symm.trans h)
    exact .inr (.inr ⟨⟨hsize, hbroken⟩, _, rfl⟩)

end CodedFrame

/-- One of the frames has the fault, and all before it are in order. -/
def Meets (fault : CodedFrame → Prop) (frames : List CodedFrame) : Prop :=
  ∃ before f after, frames = before ++ f :: after ∧ (∀ g ∈ before, g.IsSound) ∧ fault f

section Frames

variable {fault : CodedFrame → Prop} {f : CodedFrame} {rest : List CodedFrame}

theorem not_meets_nil : ¬ Meets fault [] := by
  rintro ⟨before, f, after, heq, -⟩
  exact List.append_ne_nil_of_right_ne_nil before (List.cons_ne_nil f after) heq.symm

theorem meets_cons : Meets fault (f :: rest) ↔ fault f ∨ f.IsSound ∧ Meets fault rest := by
  constructor
  · rintro ⟨before, g, after, heq, hsound, hfault⟩
    cases before with
    | nil =>
      cases heq
      exact .inl hfault
    | cons b before =>
      cases heq
      have hrest : ∀ g ∈ before, g.IsSound := fun g hg => hsound g (List.mem_cons_of_mem _ hg)
      exact .inr ⟨hsound f List.mem_cons_self, before, g, after, rfl, hrest, hfault⟩
  · rintro (hfault | ⟨hf, before, g, after, rfl, hsound, hfault⟩)
    · exact ⟨[], f, rest, rfl, List.forall_mem_nil _, hfault⟩
    · exact ⟨f :: before, g, after, rfl, List.forall_mem_cons.2 ⟨hf, hsound⟩, hfault⟩

/-- What becomes of several frames: the first that is not in order decides. -/
theorem decodeFrames_cases (frames : List CodedFrame) :
    (Meets CodedFrame.IsOversize frames ∧ decodeFrames frames = .error .tooManyPixels) ∨
      (¬ Meets CodedFrame.IsOversize frames ∧ (∃ f ∈ frames, f.IsBroken) ∧
        decodeFrames frames = .error (.format .undecodableFrame)) ∨
      (¬ Meets CodedFrame.IsOversize frames ∧ (∀ f ∈ frames, f.IsSound) ∧
        ∃ decoded, decodeFrames frames = .ok decoded) := by
  induction frames with
  | nil => exact .inr (.inr ⟨not_meets_nil, List.forall_mem_nil _, [], rfl⟩)
  | cons f rest ih =>
    rw [meets_cons, List.forall_mem_cons]
    unfold decodeFrames Frame.ofCoded
    obtain ⟨hsize, hf⟩ | ⟨hsize, hbroken, hf⟩ | ⟨hsound, image, hf⟩ := f.decode_cases
    · rw [hf]
      exact .inl ⟨.inl hsize, rfl⟩
    · rw [hf]
      have hnone : ¬ (f.IsOversize ∨ f.IsSound ∧ Meets CodedFrame.IsOversize rest) :=
        not_or_intro hsize fun h => h.1.2 hbroken
      exact .inr (.inl ⟨hnone, ⟨f, List.mem_cons_self, hbroken⟩, rfl⟩)
    · rw [hf]
      have hiff : f.IsOversize ∨ f.IsSound ∧ Meets CodedFrame.IsOversize rest ↔
          Meets CodedFrame.IsOversize rest := by
        rw [or_iff_right hsound.1, and_iff_right hsound]
      rw [hiff]
      obtain ⟨hmeets, hrest⟩ | ⟨hmeets, ⟨g, hg, hbroken⟩, hrest⟩ | ⟨hmeets, hall, _, hrest⟩ := ih
      · exact .inl ⟨hmeets, by rw [hrest]⟩
      · exact .inr (.inl ⟨hmeets, ⟨g, List.mem_cons_of_mem _ hg, hbroken⟩, by rw [hrest]⟩)
      · exact .inr (.inr ⟨hmeets, ⟨hsound, hall⟩, _, by rw [hrest]⟩)

end Frames

/-! ## Files -/

/-- **Decoding gives an animation or an error of the format, with one exception**: of the first
frame that is not in order, it is the size. There is an animation if and only if the blocks of the
file can be read and all frames are in order. -/
theorem decode_outcome (data : Bytes) :
    ((∃ a, Animation.decode data = .ok a) ∨ (∃ e, Animation.decode data = .error (.format e)) ∨
        Animation.decode data = .error .tooManyPixels) ∧
      (Animation.decode data = .error .tooManyPixels ↔
        ∃ c, Container.parse data = .ok c ∧ Meets CodedFrame.IsOversize c.frames) ∧
      ((∃ a, Animation.decode data = .ok a) ↔
        ∃ c, Container.parse data = .ok c ∧ ∀ f ∈ c.frames, f.IsSound) := by
  unfold Animation.decode
  cases hparse : Container.parse data with
  | error e => simp
  | ok c =>
    simp only [Except.ok.injEq, exists_eq_left']
    obtain ⟨hmeets, hframes⟩ | ⟨hmeets, ⟨f, hf, hbroken⟩, hframes⟩ | ⟨hmeets, hall, _, hframes⟩ :=
      decodeFrames_cases c.frames
    · have hnot : ¬ ∀ f ∈ c.frames, f.IsSound := by
        obtain ⟨before, f, after, heq, -, hsize⟩ := hmeets
        exact fun hall => (hall f (by simp [heq])).1 hsize
      simp [hframes, hmeets, hnot]
    · have hnot : ¬ ∀ f ∈ c.frames, f.IsSound := fun hall => (hall f hf).2 hbroken
      simp [hframes, hmeets, hnot]
    · simpa [hframes, hmeets] using hall

/-- A file with one frame of 65535 by 65535 pixels. -/
def vastFile : Bytes :=
  signature89 ++ [10, 0, 10, 0, 0x80, 0, 0] ++ [0, 0, 0, 255, 255, 255] ++
    [imageIntroducer, 0, 0, 0, 0, 255, 255, 255, 255, 0] ++ [2, 2, 0x4C, 0x01, 0] ++ [trailer]

/-- A frame that is too large is no error of the format. -/
theorem vastFile_not_format :
    ¬ ((∃ a, Animation.decode vastFile = .ok a) ∨
      ∃ e, Animation.decode vastFile = .error (.format e)) := by
  have hvast : Animation.decode vastFile = .error .tooManyPixels := by with_unfolding_all rfl
  simp [hvast]

end Portrait.Gif
