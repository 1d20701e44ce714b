import ApiAtlas.Comment.Inherited
import Mathlib.Tactic.Common

/-!
# Merged comments

What a comment that takes over documentation says: the inherited summary, the inherited tags but
those that ask for documentation, then the local tags that are new. A local tag is new when no tag
before it covers it, be it inherited or local, and kept or not (`Comment.inherit_eq`). Local tags
that cover nothing among themselves are therefore all kept, unless an inherited one covers them
(`Comment.inherit_of_pairwise`); of two local tags of one name that describe nothing in particular
only the first is kept (`Comment.inherit_repeated`).
-/

set_option autoImplicit false

namespace ApiAtlas

namespace Tag

/-- Whether a tag stands for another one: they have one name and describe the same thing, or the
second describes nothing in particular. -/
def Covers (u t : Tag) : Prop :=
  u.name = t.name ∧ (t.param = none ∨ u.param = t.param)

instance (u t : Tag) : Decidable (u.Covers t) :=
  inferInstanceAs (Decidable (_ ∧ _))

/-- What covers a tag that covers another one covers that one too. -/
theorem Covers.trans {v u t : Tag} (h : v.Covers u) (h' : u.Covers t) : v.Covers t := by
  refine ⟨h.1.trans h'.1, ?_⟩
  rcases h'.2 with hnone | hsame
  · exact Or.inl hnone
  · rcases h.2 with hnone | hsame'
    · exact Or.inl (hsame.symm.trans hnone)
    · exact Or.inr (hsame'.trans hsame)

end Tag

namespace Comment

variable {c own : Comment} {t : Tag} {before ts : List Tag}

/-- The tags of a comment that do not ask for documentation. -/
def keptTags (c : Comment) : List Tag :=
  c.tags.filter fun t => t.name ≠ inheritTag

/-- The local tags that are new: those that do not ask for documentation and that no tag before them
covers. -/
def newTags (before : List Tag) : List Tag → List Tag
  | [] => []
  | t :: ts =>
    if t.name = inheritTag ∨ ∃ u ∈ before, u.Covers t then newTags (before ++ [t]) ts
    else t :: newTags (before ++ [t]) ts

/-- A comment without the tags that ask for documentation consists of its summary and its kept tags.
-/
theorem removeTags_inheritTag (c : Comment) :
    c.removeTags inheritTag = ⟨c.summary, c.keptTags⟩ := by
  have hkey : tagKey inheritTag = inheritTag := by decide +kernel
  rw [removeTags, keptTags, hkey]
  apply congrArg (Comment.mk c.summary)
  apply List.filter_congr
  intro t _
  by_cases h : t.name = inheritTag <;> simp [h]

/-- A tag in lower case is found when one of the tags covers it. -/
theorem tag?_isSome_iff (hlower : tagKey t.name = t.name) :
    (c.tag? t.name t.param).isSome = true ↔ ∃ u ∈ c.tags, u.Covers t := by
  unfold tag?
  rw [List.find?_isSome, hlower]
  refine exists_congr fun u => and_congr_right fun _ => ?_
  simp [Tag.Covers]

/-- A tag is added unless it asks for documentation or one of the tags covers it. -/
theorem addTag_eq (hlower : tagKey t.name = t.name) :
    c.addTag t = if t.name = inheritTag ∨ ∃ u ∈ c.tags, u.Covers t then c
      else ⟨c.summary, c.tags ++ [t]⟩ := by
  have hfound := tag?_isSome_iff (c := c) hlower
  by_cases hold : ∃ u ∈ c.tags, u.Covers t
  · simp [addTag, hfound.2 hold, hold]
  · have hnone : (c.tag? t.name t.param).isSome = false := by
      rw [← Bool.not_eq_true, hfound]
      exact hold
    simp [addTag, hnone, hold]

/-- Whether the tags of two lists cover the same tags, of those that do not ask for
documentation. -/
def CoverAlike (us vs : List Tag) : Prop :=
  ∀ t : Tag, t.name ≠ inheritTag → ((∃ u ∈ us, u.Covers t) ↔ ∃ v ∈ vs, v.Covers t)

namespace CoverAlike

variable {us vs : List Tag}

/-- Lists of tags that cover alike still do with one tag more at the end of both. -/
theorem concat (h : CoverAlike us vs) (t : Tag) : CoverAlike (us ++ [t]) (vs ++ [t]) := by
  intro t' ht'
  simp only [List.mem_append, or_and_right, exists_or, h t' ht']

/-- A tag that is not added makes no difference, since what it covers is covered already. -/
theorem skip (h : CoverAlike us vs) (hold : t.name = inheritTag ∨ ∃ u ∈ us, u.Covers t) :
    CoverAlike us (vs ++ [t]) := by
  intro t' ht'
  have hcovered : t.Covers t' → ∃ v ∈ vs, v.Covers t' := by
    intro htt'
    rcases hold with hasks | ⟨u, hu, hut⟩
    · exact absurd (htt'.1.symm.trans hasks) ht'
    · exact (h t' ht').1 ⟨u, hu, hut.trans htt'⟩
  rw [h t' ht']
  simp only [List.mem_append, List.mem_singleton, or_and_right, exists_or, exists_eq_left]
  exact (or_iff_left_of_imp hcovered).symm

end CoverAlike

/-- Adding tags one after the other adds the new ones among them. What is added so far covers as
much as all the tags before do. -/
theorem foldl_addTag (hlower : ∀ t ∈ ts, tagKey t.name = t.name)
    (hcover : CoverAlike c.tags before) :
    ts.foldl addTag c = ⟨c.summary, c.tags ++ newTags before ts⟩ := by
  induction ts generalizing c before with
  | nil => simp [newTags]
  | cons t ts ih =>
    obtain ⟨hlower_t, hlower_ts⟩ := List.forall_mem_cons.1 hlower
    have hsame : (t.name = inheritTag ∨ ∃ u ∈ before, u.Covers t) ↔
        t.name = inheritTag ∨ ∃ u ∈ c.tags, u.Covers t := by
      by_cases hasks : t.name = inheritTag
      · simp [hasks]
      · rw [hcover t hasks]
    rw [List.foldl_cons, addTag_eq hlower_t, newTags]
    by_cases hold : t.name = inheritTag ∨ ∃ u ∈ c.tags, u.Covers t
    · rw [if_pos hold, if_pos (hsame.2 hold)]
      exact ih hlower_ts (hcover.skip hold)
    · have hlonger : CoverAlike (c.tags ++ [t]) (before ++ [t]) := hcover.concat t
      rw [if_neg hold, if_neg fun h => hold (hsame.1 h), ih hlower_ts hlonger,
        List.append_assoc, List.singleton_append]

/-- A comment that takes over documentation keeps the inherited summary and the inherited tags that
do not ask for documentation, and then has its own new tags. -/
theorem inherit_eq (hlower : ∀ t ∈ own.tags, tagKey t.name = t.name) :
    inherit c (some own) = ⟨c.summary, c.keptTags ++ newTags c.keptTags own.tags⟩ := by
  rw [inherit, removeTags_inheritTag]
  exact foldl_addTag hlower fun _ _ => Iff.rfl

/-- Local tags that cover nothing, be it among themselves or among what is before them, are all
new. -/
theorem newTags_of_pairwise
    (hbefore : ∀ u ∈ before, ∀ t ∈ ts, t.name ≠ inheritTag → ¬u.Covers t)
    (hapart : ts.Pairwise fun u t => ¬u.Covers t) :
    newTags before ts = ts.filter fun t => t.name ≠ inheritTag := by
  induction ts generalizing before with
  | nil => simp [newTags]
  | cons t ts ih =>
    obtain ⟨hhead, htail⟩ := List.pairwise_cons.1 hapart
    have hrest : newTags (before ++ [t]) ts = ts.filter fun t => t.name ≠ inheritTag := by
      apply ih _ htail
      intro u hu t' ht' hasks
      rcases List.mem_append.1 hu with hu | hu
      · exact hbefore u hu t' (List.mem_cons_of_mem _ ht') hasks
      · rw [List.mem_singleton.1 hu]
        exact hhead t' ht'
    rw [newTags, hrest]
    by_cases hasks : t.name = inheritTag
    · simp [hasks]
    · have hnew : ¬∃ u ∈ before, u.Covers t := by
        rintro ⟨u, hu, hut⟩
        exact hbefore u hu t (List.mem_cons_self ..) hasks hut
      simp [hasks, hnew]

/-- A comment keeps all of its own tags that do not ask for documentation when none of them is
covered by an inherited tag or by an earlier tag of its own. -/
theorem inherit_of_pairwise (hlower : ∀ t ∈ own.tags, tagKey t.name = t.name)
    (hnew : ∀ u ∈ c.keptTags, ∀ t ∈ own.tags, ¬u.Covers t)
    (hapart : own.tags.Pairwise fun u t => ¬u.Covers t) :
    inherit c (some own) = ⟨c.summary, c.keptTags ++ own.keptTags⟩ := by
  have hown : newTags c.keptTags own.tags = own.keptTags :=
    newTags_of_pairwise (fun u hu t ht _ => hnew u hu t ht) hapart
  rw [inherit_eq hlower, hown]

/-- Of two local tags of one name that describe nothing in particular the second is lost. -/
theorem inherit_repeated :
    inherit ⟨"Text.", []⟩
      (some ⟨"", [⟨inheritTag, "a", none⟩, ⟨"see", "X", none⟩, ⟨"see", "Y", none⟩]⟩) =
    ⟨"Text.", [⟨"see", "X", none⟩]⟩ := by
  decide +kernel

end Comment

end ApiAtlas
