import ApiAtlas.Proofs.Ty.Parts
import Mathlib.Data.List.Basic

/-!
# Types as they are shown

What the text of a type tells about it. A text is read from left to right with a stack of open
brackets (`Ty.read`); reading what a type is shown as yields that type again, up to the nesting of
unions and intersections (`Ty.read_text`): no parentheses stand around a union inside of an
intersection, so that `&` binds its neighbours and `|` parts all the rest. Types in which no
intersection has a union as a member are told by their texts (`Ty.flattened_eq_of_text_eq`); others
are not (`Ty.grouped_union_shown_alike`).
-/

set_option autoImplicit false

namespace ApiAtlas

namespace Ty

/-! ## Plain types -/

/-- The characters that part or enclose types. -/
def marks : List Char :=
  [' ', '&', '|', ',', '<', '>', '(', ')', '[', ']']

/-- Whether a name has characters and none of them is a mark. -/
def IsWord (name : String) : Prop :=
  name ≠ "" ∧ ∀ c ∈ name.toList, c ∉ marks

-- The characters of the name are checked one by one; a search over all characters would not end.
instance (name : String) : Decidable (IsWord name) :=
  @instDecidableAnd _ _ inferInstance (List.decidableBAll (· ∉ marks) name.toList)

/-- Types built from words, in which unions and intersections have at least two members. -/
inductive IsPlain : Ty → Prop
  | intrinsic {name : String} (hname : IsWord name) : IsPlain (.intrinsic name)
  | typeParameter {name : String} {constraint : Option Ty} (hname : IsWord name) :
    IsPlain (.typeParameter name constraint)
  | reference {name : String} {symbol : Option String} {arguments : List Ty}
    {target : Option EntryId} (hname : IsWord name) (h : ∀ t ∈ arguments, t.IsPlain) :
    IsPlain (.reference name symbol arguments target)
  | union {types : List Ty} (hlength : 2 ≤ types.length) (h : ∀ t ∈ types, t.IsPlain) :
    IsPlain (.union types)
  | intersection {types : List Ty} (hlength : 2 ≤ types.length) (h : ∀ t ∈ types, t.IsPlain) :
    IsPlain (.intersection types)
  | array {element : Ty} (h : element.IsPlain) : IsPlain (.array element)
  | tuple {elements : List Ty} (h : ∀ t ∈ elements, t.IsPlain) : IsPlain (.tuple elements)

/-! ## Flattening -/

/-- The members of a union, or the type by itself. -/
def alternatives : Ty → List Ty
  | .union types => types
  | t => [t]

/-- The members of an intersection, or the type by itself. -/
def factors : Ty → List Ty
  | .intersection types => types
  | t => [t]

mutual

/-- The type without unions directly inside unions and intersections directly inside
intersections. Of leaves and references only the names are kept. -/
def flattened : Ty → Ty
  | .typeParameter name _ => .intrinsic name
  | .reference name _ [] _ => .intrinsic name
  | .reference name _ (t :: ts) _ => .reference name none (t.flattened :: flattenedList ts) none
  | .union types => .union ((flattenedList types).flatMap alternatives)
  | .intersection types => .intersection ((flattenedList types).flatMap factors)
  | .array element => .array element.flattened
  | .tuple elements => .tuple (flattenedList elements)
  | t => t

/-- Each type of a list flattened. -/
def flattenedList : List Ty → List Ty
  | [] => []
  | t :: ts => t.flattened :: flattenedList ts

end

/-! ## Regrouping -/

/-- The intersection of some types, or the only one. -/
def product : List Ty → Ty
  | [t] => t
  | ts => .intersection ts

/-- The union of some types, or the only one. -/
def sum : List Ty → Ty
  | [t] => t
  | ts => .union ts

/-- The parts of a row between its bars. -/
def groups : List (Option Ty) → List (List Ty)
  | [] => [[]]
  | none :: row => [] :: groups row
  | some t :: row => (groups row).modifyHead (t :: ·)

/-- A row as a type: bars part unions, what stands side by side is an intersection. -/
def ofRow (row : List (Option Ty)) : Ty :=
  sum ((groups row).map product)

mutual

/-- A type as a row of types that are neither unions nor intersections, with bars between the
members of unions. -/
def row : Ty → List (Option Ty)
  | .typeParameter name _ => [some (.intrinsic name)]
  | .reference name _ [] _ => [some (.intrinsic name)]
  | .reference name _ (t :: ts) _ =>
    [some (.reference name none (ofRow t.row :: (rows ts).map ofRow) none)]
  | .union types => [none].intercalate (rows types)
  | .intersection types => (rows types).flatten
  | .array element => [some (.array (ofRow element.row))]
  | .tuple elements => [some (.tuple ((rows elements).map ofRow))]
  | t => [some t]

/-- The rows of some types. -/
def rows : List Ty → List (List (Option Ty))
  | [] => []
  | t :: ts => t.row :: rows ts

end

/-- The type with its unions and intersections grouped as its text shows them. -/
def regrouped (t : Ty) : Ty :=
  ofRow t.row

/-- The rows of types are those of each. -/
theorem rows_eq_map (ts : List Ty) : rows ts = ts.map row := by
  induction ts with
  | nil => rfl
  | cons t ts ih => rw [rows, ih, List.map_cons]

/-- Types are flattened one by one. -/
theorem flattenedList_eq_map (ts : List Ty) : flattenedList ts = ts.map flattened := by
  induction ts with
  | nil => rfl
  | cons t ts ih => rw [flattenedList, ih, List.map_cons]

/-- The types that rows of types show are the regrouped types. -/
theorem map_ofRow_rows (ts : List Ty) : (rows ts).map ofRow = ts.map regrouped := by
  rw [rows_eq_map, List.map_map]
  rfl

/-! ## Reading -/

/-- What has been read inside one pair of brackets: the types before the last comma, the row after
it, and the type that ends here if none is expected yet. -/
structure Frame where
  items : List Ty := []
  row : List (Option Ty) := []
  atom : Option Ty := none

namespace Frame

/-- The row with the type that ends here. -/
def content (f : Frame) : List (Option Ty) :=
  f.row ++ f.atom.toList.map some

/-- After an ampersand. -/
def amp (f : Frame) : Frame :=
  { f with row := f.content, atom := none }

/-- After a bar. -/
def bar (f : Frame) : Frame :=
  { f with row := f.content ++ [none], atom := none }

/-- All types, where nothing is between a comma and the end. -/
def types (f : Frame) : List Ty :=
  f.items ++ if f.content.isEmpty then [] else [ofRow f.content]

/-- After a comma. -/
def comma (f : Frame) : Frame :=
  { items := f.types }

/-- After one more character of a name. -/
def spell (f : Frame) (c : Char) : Frame :=
  match f.atom with
  | some (.intrinsic name) => { f with atom := some (.intrinsic (name.push c)) }
  | _ => { f with atom := some (.intrinsic (String.singleton c)) }

/-- After the angle brackets behind a name. -/
def applied (f : Frame) (arguments : List Ty) : Frame :=
  match f.atom with
  | some (.intrinsic name) => { f with atom := some (.reference name none arguments none) }
  | _ => f

/-- After parentheses. -/
def enclosed (f : Frame) (types : List Ty) : Frame :=
  { f with atom := types.head? }

/-- After square brackets. -/
def bracketed (f : Frame) (types : List Ty) : Frame :=
  match f.atom with
  | some t => { f with atom := some (.array t) }
  | none => { f with atom := some (.tuple types) }

end Frame

/-- The frame that is read and those around it, innermost first. -/
structure Reader where
  top : Frame
  below : List Frame

namespace Reader

/-- The reader with its innermost frame changed. -/
def on (r : Reader) (f : Frame → Frame) : Reader :=
  { r with top := f r.top }

/-- After an opening bracket. -/
def opened (r : Reader) : Reader :=
  ⟨{}, r.top :: r.below⟩

/-- After a closing bracket, where the frame around it gets the types inside it. -/
def closed (r : Reader) (give : Frame → List Ty → Frame) : Reader :=
  match r.below with
  | f :: below => ⟨give f r.top.types, below⟩
  | [] => r

/-- After one more character. -/
def step (r : Reader) (c : Char) : Reader :=
  match c with
  | ' ' => r
  | '&' => r.on .amp
  | '|' => r.on .bar
  | ',' => r.on .comma
  | '<' => r.opened
  | '(' => r.opened
  | '[' => r.opened
  | '>' => r.closed .applied
  | ')' => r.closed .enclosed
  | ']' => r.closed .bracketed
  | c => r.on (·.spell c)

end Reader

/-- The type that a text shows. -/
def read (text : String) : Ty :=
  ofRow (text.toList.foldl Reader.step ⟨{}, []⟩).top.content

/-! ### Rows -/

/-- The row of an intersection is that of its members side by side. -/
theorem row_intersection (t : Ty) (ts : List Ty) :
    (intersection (t :: ts)).row = t.row ++ ts.flatMap row := by
  rw [row, rows, rows_eq_map, List.flatten_cons, List.flatMap_def]

/-- The row of a union is that of its members with bars between them. -/
theorem row_union (t : Ty) (ts : List Ty) :
    (union (t :: ts)).row = t.row ++ ts.flatMap fun u => none :: u.row := by
  rw [row, rows, rows_eq_map]
  induction ts generalizing t with
  | nil => simp
  | cons u us ih =>
    rw [List.map_cons, List.intercalate_cons_cons, ih, List.flatMap_cons, List.append_assoc,
      List.singleton_append, List.cons_append]

/-! ### Steps -/

section

open Reader

variable {t : Ty} {ts : List Ty} {name : String}

/-- Reading an ampersand between blanks ends a factor. -/
theorem foldl_amp (f : Frame) (below : List Frame) :
    " & ".toList.foldl step ⟨f, below⟩ = ⟨f.amp, below⟩ := rfl

/-- Reading a bar between blanks ends an alternative. -/
theorem foldl_bar (f : Frame) (below : List Frame) :
    " | ".toList.foldl step ⟨f, below⟩ = ⟨f.bar, below⟩ := rfl

/-- Reading a comma and a blank ends a type. -/
theorem foldl_comma (f : Frame) (below : List Frame) :
    ", ".toList.foldl step ⟨f, below⟩ = ⟨f.comma, below⟩ := rfl

/-- Reading a character that is no mark spells a name. -/
theorem step_spell {c : Char} (hc : c ∉ marks) (f : Frame) (below : List Frame) :
    step ⟨f, below⟩ c = ⟨f.spell c, below⟩ := by
  unfold step
  split <;> first | rfl | exact absurd (by decide) hc

/-- Reading a word where a type is expected gives the type of that name. -/
theorem foldl_word (h : IsWord name) {f : Frame} (hf : f.atom = none) (below : List Frame) :
    name.toList.foldl step ⟨f, below⟩ = ⟨{ f with atom := some (.intrinsic name) }, below⟩ := by
  have rest : ∀ (cs : List Char) (w : String), (∀ c ∈ cs, c ∉ marks) →
      cs.foldl step ⟨{ f with atom := some (.intrinsic w) }, below⟩ =
        ⟨{ f with atom := some (.intrinsic (w ++ String.ofList cs)) }, below⟩ := by
    intro cs
    induction cs with
    | nil => simp
    | cons c cs ih =>
      intro w hcs
      rw [List.foldl_cons, step_spell (hcs c List.mem_cons_self)]
      refine (ih (w.push c) fun c' hc' => hcs c' (List.mem_cons_of_mem _ hc')).trans ?_
      rw [show w.push c ++ String.ofList cs = w ++ String.ofList (c :: cs) by
        rw [← String.toList_inj]; simp]
  obtain ⟨hne, hmarks⟩ := h
  obtain ⟨c, cs, hcs⟩ : ∃ c cs, name.toList = c :: cs := by
    rw [← List.ne_nil_iff_exists_cons]
    exact fun h => hne (String.toList_eq_nil_iff.1 h)
  rw [hcs] at hmarks ⊢
  have hname : String.singleton c ++ String.ofList cs = name := by
    rw [← String.toList_inj, hcs]
    simp
  rw [List.foldl_cons, step_spell (hmarks c List.mem_cons_self), Frame.spell, hf]
  refine (rest cs _ fun c' hc' => hmarks c' (List.mem_cons_of_mem _ hc')).trans ?_
  rw [hname]

/-! ### Types -/

/-- Reading the text of a type adds its row to the row of the frame. -/
structure Reads (t : Ty) : Prop where
  row : t.row ≠ []
  text : ∀ (f : Frame) (below : List Frame), f.atom = none → ∃ g : Frame,
    t.text.toList.foldl step ⟨f, below⟩ = ⟨g, below⟩ ∧ g.items = f.items ∧
      g.content = f.content ++ t.row

/-- Reading the text of a type gives the type that is expected. -/
structure ReadsAtom (t : Ty) : Prop where
  row : t.row = [some t.regrouped]
  text : ∀ (f : Frame) (below : List Frame), f.atom = none →
    t.text.toList.foldl step ⟨f, below⟩ = ⟨{ f with atom := some t.regrouped }, below⟩

/-- A type that is read as one that is expected adds its row. -/
theorem ReadsAtom.reads (h : t.ReadsAtom) : t.Reads := by
  refine ⟨by rw [h.row]; exact List.cons_ne_nil _ _, fun f below hf => ?_⟩
  refine ⟨_, h.text f below hf, rfl, ?_⟩
  simp [Frame.content, hf, h.row]

/-- Types after separators add their rows, each behind what the separator adds. -/
theorem exists_foldl_after {sep : String} {bars : List (Option Ty)}
    (hsep : ∀ (f : Frame) below, sep.toList.foldl step ⟨f, below⟩ =
      ⟨{ f with row := f.content ++ bars, atom := none }, below⟩)
    (hts : ∀ t ∈ ts, t.Reads) (f : Frame) (below : List Frame) : ∃ g : Frame,
      (textAfter sep ts).toList.foldl step ⟨f, below⟩ = ⟨g, below⟩ ∧ g.items = f.items ∧
        g.content = f.content ++ ts.flatMap fun t => bars ++ t.row := by
  induction ts generalizing f with
  | nil => exact ⟨f, rfl, rfl, by simp⟩
  | cons t ts ih =>
    obtain ⟨g, hg, hitems, hcontent⟩ := (hts t List.mem_cons_self).text
      { f with row := f.content ++ bars, atom := none } below rfl
    obtain ⟨g', hg', hitems', hcontent'⟩ := ih (fun u hu => hts u (List.mem_cons_of_mem _ hu)) g
    refine ⟨g', ?_, hitems'.trans hitems, ?_⟩
    · rw [textAfter, String.toList_append, String.toList_append, List.foldl_append,
        List.foldl_append, hsep, hg, hg']
    · rw [hcontent', hcontent]
      simp [Frame.content]

/-- Types after commas are added to those of the frame. -/
theorem exists_foldl_commas (hts : ∀ t ∈ ts, t.Reads) (f : Frame) (below : List Frame) :
    ∃ g : Frame, (textAfter ", " ts).toList.foldl step ⟨f, below⟩ = ⟨g, below⟩ ∧
      g.types = f.types ++ ts.map regrouped := by
  induction ts generalizing f with
  | nil => exact ⟨f, rfl, by simp⟩
  | cons t ts ih =>
    have ht := hts t List.mem_cons_self
    obtain ⟨g, hg, hitems, hcontent⟩ := ht.text f.comma below rfl
    obtain ⟨g', hg', htypes⟩ := ih (fun u hu => hts u (List.mem_cons_of_mem _ hu)) g
    refine ⟨g', ?_, ?_⟩
    · rw [textAfter, String.toList_append, String.toList_append, List.foldl_append,
        List.foldl_append, foldl_comma, hg, hg']
    · have hrow : g.content = t.row := hcontent
      rw [htypes, Frame.types, hitems, hrow, if_neg (by simpa using ht.row)]
      simp [Frame.comma, regrouped]

/-- A list of types in brackets gives the types to the frame around it. -/
theorem exists_foldl_list (hts : ∀ t ∈ ts, t.Reads) (below : List Frame) :
    ∃ g : Frame, (textList ", " ts).toList.foldl step ⟨{}, below⟩ = ⟨g, below⟩ ∧
      g.types = ts.map regrouped := by
  cases ts with
  | nil => exact ⟨{}, rfl, rfl⟩
  | cons t ts =>
    have ht := hts t List.mem_cons_self
    obtain ⟨g, hg, hitems, hcontent⟩ := ht.text {} below rfl
    obtain ⟨g', hg', htypes⟩ :=
      exists_foldl_commas (fun u hu => hts u (List.mem_cons_of_mem _ hu)) g below
    refine ⟨g', ?_, ?_⟩
    · rw [textList, String.toList_append, List.foldl_append, hg, hg']
    · have hrow : g.content = t.row := hcontent
      rw [htypes, Frame.types, hitems, hrow, if_neg (by simpa using ht.row)]
      rfl

/-- Whether a type is a union or an intersection, and so gets parentheses inside of an array. -/
def isGroup : Ty → Bool
  | .union _ | .intersection _ => true
  | _ => false

/-- The text of an array of a union or an intersection has parentheses around the element. -/
theorem text_array_of_isGroup (h : t.isGroup = true) :
    (array t).text = "(" ++ t.text ++ ")[]" := by
  cases t <;> first | rfl | cases h

/-- The text of an array of any other type has none. -/
theorem text_array_of_not_isGroup (h : t.isGroup = false) : (array t).text = t.text ++ "[]" := by
  cases t <;> first | rfl | cases h

/-- A reference is read as the type that is expected when its arguments are read. -/
theorem readsAtom_reference (hname : IsWord name) {symbol : Option String}
    {target : Option EntryId} (hts : ∀ u ∈ ts, u.Reads) :
    (reference name symbol ts target).ReadsAtom := by
  cases ts with
  | nil => exact ⟨rfl, fun f below hf => foldl_word hname hf below⟩
  | cons u us =>
    refine ⟨rfl, fun f below hf => ?_⟩
    obtain ⟨g, hg, htypes⟩ :=
      exists_foldl_list hts ({ f with atom := some (.intrinsic name) } :: below)
    have hregrouped : (reference name symbol (u :: us) target).regrouped =
        .reference name none g.types none := by
      rw [htypes, regrouped, row, map_ofRow_rows]
      rfl
    have htext : (reference name symbol (u :: us) target).text =
        name ++ "<" ++ textList ", " (u :: us) ++ ">" := by
      simp only [text, textList, String.append_assoc]
    rw [htext, hregrouped]
    simp only [String.toList_append, List.foldl_append]
    rw [foldl_word hname hf]
    change ">".toList.foldl step ((textList ", " (u :: us)).toList.foldl step ⟨{}, _⟩) = _
    rw [hg]
    rfl

/-- A tuple is read as the type that is expected when its elements are read. -/
theorem readsAtom_tuple (hts : ∀ u ∈ ts, u.Reads) : (tuple ts).ReadsAtom := by
  refine ⟨rfl, fun f below hf => ?_⟩
  obtain ⟨g, hg, htypes⟩ := exists_foldl_list hts (f :: below)
  have hregrouped : (tuple ts).regrouped = .tuple g.types := by
    rw [htypes, regrouped, row, map_ofRow_rows]
    rfl
  rw [hregrouped, text]
  simp only [String.toList_append, List.foldl_append]
  change "]".toList.foldl step ((textList ", " ts).toList.foldl step ⟨{}, f :: below⟩) = _
  rw [hg]
  change (⟨f.bracketed g.types, below⟩ : Reader) = _
  rw [Frame.bracketed, hf]

/-- In an array a union or an intersection stands in parentheses; any other type has been read
before the square brackets. -/
theorem readsAtom_array (h : t.Reads) (hatom : t.isGroup = false → t.ReadsAtom) :
    (array t).ReadsAtom := by
  refine ⟨rfl, fun f below hf => ?_⟩
  cases hgroup : t.isGroup with
  | false =>
    rw [text_array_of_not_isGroup hgroup, String.toList_append, List.foldl_append,
      (hatom hgroup).text f below hf]
    rfl
  | true =>
    obtain ⟨g, hg, hitems, hcontent⟩ := h.text {} (f :: below) rfl
    have htypes : g.types = [t.regrouped] := by
      have hrow : g.content = t.row := hcontent
      rw [Frame.types, hitems, hrow, if_neg (by simpa using h.row)]
      rfl
    rw [text_array_of_isGroup hgroup]
    simp only [String.toList_append, List.foldl_append]
    change ")[]".toList.foldl step (t.text.toList.foldl step ⟨{}, f :: below⟩) = _
    rw [hg]
    change (⟨(f.enclosed g.types).bracketed [], below⟩ : Reader) = _
    rw [htypes]
    rfl

/-- A union or an intersection adds the rows of its members, with what its separator adds between
them. -/
theorem reads_group {u : Ty} {sep : String} {bars : List (Option Ty)}
    (hsep : ∀ (f : Frame) below, sep.toList.foldl step ⟨f, below⟩ =
      ⟨{ f with row := f.content ++ bars, atom := none }, below⟩)
    (htext : u.text = textList sep (t :: ts))
    (hrow : u.row = t.row ++ ts.flatMap fun v => bars ++ v.row)
    (hts : ∀ v ∈ t :: ts, v.Reads) : u.Reads := by
  have ht := hts t List.mem_cons_self
  refine ⟨?_, fun f below hf => ?_⟩
  · rw [hrow]
    exact fun h => ht.row (List.append_eq_nil_iff.1 h).1
  · obtain ⟨g, hg, hitems, hcontent⟩ := ht.text f below hf
    obtain ⟨g', hg', hitems', hcontent'⟩ :=
      exists_foldl_after hsep (fun v hv => hts v (List.mem_cons_of_mem _ hv)) g below
    refine ⟨g', ?_, hitems'.trans hitems, ?_⟩
    · rw [htext, textList, String.toList_append, List.foldl_append, hg, hg']
    · rw [hcontent', hcontent, hrow, List.append_assoc]

/-- Every plain type is read as it was written, and one that is neither a union nor an
intersection in one piece. -/
theorem IsPlain.reads (h : t.IsPlain) : t.Reads ∧ (t.isGroup = false → t.ReadsAtom) := by
  have atom : ∀ {u : Ty}, u.ReadsAtom → u.Reads ∧ (u.isGroup = false → u.ReadsAtom) :=
    fun hu => ⟨hu.reads, fun _ => hu⟩
  induction h with
  | intrinsic hname => exact atom ⟨rfl, fun f below hf => foldl_word hname hf below⟩
  | typeParameter hname => exact atom ⟨rfl, fun f below hf => foldl_word hname hf below⟩
  | reference hname _ ih => exact atom (readsAtom_reference hname fun u hu => (ih u hu).1)
  | array _ ih => exact atom (readsAtom_array ih.1 ih.2)
  | tuple _ ih => exact atom (readsAtom_tuple fun u hu => (ih u hu).1)
  | @union types hlength _ ih =>
    obtain ⟨t, ts, rfl⟩ := List.exists_cons_of_length_pos (Nat.lt_of_lt_of_le Nat.two_pos hlength)
    exact ⟨reads_group foldl_bar rfl (row_union t ts) fun u hu => (ih u hu).1, nofun⟩
  | @intersection types hlength _ ih =>
    obtain ⟨t, ts, rfl⟩ := List.exists_cons_of_length_pos (Nat.lt_of_lt_of_le Nat.two_pos hlength)
    have hsep : ∀ (f : Frame) below, " & ".toList.foldl step ⟨f, below⟩ =
        ⟨{ f with row := f.content ++ [], atom := none }, below⟩ := fun f below => by
      rw [foldl_amp, Frame.amp, List.append_nil]
    exact ⟨reads_group hsep rfl (row_intersection t ts) fun u hu => (ih u hu).1, nofun⟩

/-- A text shows a plain type up to grouping. -/
theorem read_text (h : t.IsPlain) : read t.text = t.regrouped := by
  obtain ⟨g, hg, -, hcontent⟩ := h.reads.1.text {} [] rfl
  rw [read, hg]
  exact congrArg ofRow hcontent

/-- Plain types that are shown alike are the same once they are grouped as they are shown. -/
theorem regrouped_eq_of_text_eq {u : Ty} (ht : t.IsPlain) (hu : u.IsPlain)
    (h : t.text = u.text) : t.regrouped = u.regrouped := by
  rw [← read_text ht, ← read_text hu, h]

end

/-! ## Types without grouped unions -/

/-- Whether a type is a union. -/
def isUnion : Ty → Bool
  | .union _ => true
  | _ => false

mutual

/-- Whether no intersection inside a type has a union as a member. -/
def IsTidy : Ty → Prop
  | .reference _ _ arguments _ => AreTidy arguments
  | .union types => AreTidy types
  | .intersection types => AreTidy types ∧ ∀ t ∈ types, t.isUnion = false
  | .array element => element.IsTidy
  | .tuple elements => AreTidy elements
  | _ => True

/-- Whether no intersection inside some types has a union as a member. -/
def AreTidy : List Ty → Prop
  | [] => True
  | t :: ts => t.IsTidy ∧ AreTidy ts

end

/-- Types are tidy just when each of them is. -/
theorem areTidy_iff {ts : List Ty} : AreTidy ts ↔ ∀ t ∈ ts, t.IsTidy := by
  induction ts with
  | nil => simp [AreTidy]
  | cons t ts ih => rw [AreTidy, ih, List.forall_mem_cons]

section

variable {t : Ty} {ts : List Ty}

/-- The sum of several types is their union. -/
theorem sum_of_two_le (h : 2 ≤ ts.length) : sum ts = .union ts := by
  unfold sum
  split
  · simp at h
  · rfl

/-- The product of several types is their intersection. -/
theorem product_of_two_le (h : 2 ≤ ts.length) : product ts = .intersection ts := by
  unfold product
  split
  · simp at h
  · rfl

/-- Several items that each yield something yield several. -/
theorem two_le_length_flatMap {f : Ty → List Ty} (h : 2 ≤ ts.length) (hf : ∀ t ∈ ts, f t ≠ []) :
    2 ≤ (ts.flatMap f).length := by
  match ts, h with
  | t :: u :: ts, _ =>
    have ht := List.length_pos_iff.2 (hf t (by simp))
    have hu := List.length_pos_iff.2 (hf u (by simp))
    simp only [List.flatMap_cons, List.length_append]
    omega

/-- A flattened type that is no union is its only alternative. -/
theorem alternatives_flattened (h : t.isUnion = false) :
    t.flattened.alternatives = [t.flattened] := by
  cases t with
  | reference name symbol arguments target => cases arguments <;> rfl
  | union => cases h
  | _ => rfl

/-- A flattened union has the alternatives of its flattened members. -/
theorem flattened_union (ts : List Ty) :
    (union ts).flattened = .union (ts.flatMap fun u => u.flattened.alternatives) := by
  rw [flattened, flattenedList_eq_map, List.flatMap_map]

/-- A flattened intersection has the factors of its flattened members. -/
theorem flattened_intersection (ts : List Ty) :
    (intersection ts).flattened = .intersection (ts.flatMap fun u => u.flattened.factors) := by
  rw [flattened, flattenedList_eq_map, List.flatMap_map]

/-- A type that is the union of its alternatives, each of which is the intersection of its
factors. -/
structure IsFlat (t : Ty) : Prop where
  alternatives : t.alternatives ≠ []
  factors : t.factors ≠ []
  sum : sum t.alternatives = t
  product : ∀ u ∈ t.alternatives, product u.factors = u

/-- A type that is neither a union nor an intersection is flat. -/
theorem isFlat_of_not_isGroup (h : t.isGroup = false) : t.IsFlat := by
  cases t with
  | union | intersection => cases h
  | _ => exact ⟨List.cons_ne_nil _ _, List.cons_ne_nil _ _, rfl,
      fun u hu => List.mem_singleton.1 hu ▸ rfl⟩

/-- Flattening a plain type makes it flat. -/
theorem IsPlain.isFlat (h : t.IsPlain) : t.flattened.IsFlat := by
  induction h with
  | intrinsic | typeParameter | array | tuple => exact isFlat_of_not_isGroup rfl
  | @reference _ _ arguments => cases arguments <;> exact isFlat_of_not_isGroup rfl
  | @union types hlength _ ih =>
    have hlong := two_le_length_flatMap hlength fun u hu => (ih u hu).alternatives
    rw [flattened_union]
    refine ⟨List.ne_nil_of_length_pos (Nat.lt_of_lt_of_le Nat.two_pos hlong),
      List.cons_ne_nil _ _, sum_of_two_le hlong, fun v hv => ?_⟩
    obtain ⟨u, hu, hvu⟩ := List.mem_flatMap.1 hv
    exact (ih u hu).product v hvu
  | @intersection types hlength _ ih =>
    have hlong := two_le_length_flatMap hlength fun u hu => (ih u hu).factors
    rw [flattened_intersection]
    refine ⟨List.cons_ne_nil _ _, List.ne_nil_of_length_pos (Nat.lt_of_lt_of_le Nat.two_pos hlong),
      rfl, fun v hv => ?_⟩
    obtain rfl := List.mem_singleton.1 hv
    exact product_of_two_le hlong

/-- A row has at least one part between bars. -/
theorem groups_ne_nil (row : List (Option Ty)) : groups row ≠ [] := by
  induction row with
  | nil => exact List.cons_ne_nil _ _
  | cons a row ih =>
    cases a with
    | none => exact List.cons_ne_nil _ _
    | some t =>
      obtain ⟨g, gs, hg⟩ := List.exists_cons_of_ne_nil ih
      rw [groups, hg]
      exact List.cons_ne_nil _ _

/-- A bar ends a part. -/
theorem groups_append_bar (row row' : List (Option Ty)) :
    groups (row ++ none :: row') = groups row ++ groups row' := by
  induction row with
  | nil => rfl
  | cons a row ih =>
    cases a with
    | none => rw [List.cons_append, groups, ih, groups, List.cons_append]
    | some t =>
      obtain ⟨g, gs, hg⟩ := List.exists_cons_of_ne_nil (groups_ne_nil row)
      rw [List.cons_append, groups, ih, groups, hg]
      rfl

/-- Types side by side are one part. -/
theorem groups_map_some (ts : List Ty) : groups (ts.map some) = [ts] := by
  induction ts with
  | nil => rfl
  | cons t ts ih =>
    rw [List.map_cons, groups, ih]
    rfl

/-- The row of a type has the alternatives of the flattened type, each with its factors; that of one
that is no union has no bars. -/
structure ShowsFlat (t : Ty) : Prop where
  groups : groups t.row = t.flattened.alternatives.map factors
  row : t.isUnion = false → t.row = t.flattened.factors.map some

/-- A type that is no union shows flat if its row has the factors of the flattened type. -/
theorem showsFlat_of_not_isUnion (h : t.isUnion = false)
    (hrow : t.row = t.flattened.factors.map some) : t.ShowsFlat := by
  refine ⟨?_, fun _ => hrow⟩
  rw [hrow, groups_map_some, alternatives_flattened h]
  rfl

/-- A type that shows flat is regrouped to what it is flattened to, if that is flat. -/
theorem ShowsFlat.regrouped_eq (h : t.ShowsFlat) (hflat : t.flattened.IsFlat) :
    t.regrouped = t.flattened := by
  calc t.regrouped
    _ = sum (t.flattened.alternatives.map fun u => product u.factors) := by
      rw [regrouped, ofRow, h.groups, List.map_map]
      rfl
    _ = sum t.flattened.alternatives := by
      rw [List.map_congr_left hflat.product, List.map_id']
    _ = t.flattened := hflat.sum

/-- A reference shows flat when its arguments are regrouped to what they are flattened to. -/
theorem showsFlat_reference {name : String} {symbol : Option String} {target : Option EntryId}
    (h : ts.map regrouped = ts.map flattened) :
    (reference name symbol ts target).ShowsFlat := by
  refine showsFlat_of_not_isUnion rfl ?_
  cases ts with
  | nil => rfl
  | cons u us =>
    have hrows : ofRow u.row :: (rows us).map ofRow = (u :: us).map flattened := by
      rw [map_ofRow_rows, ← h]
      rfl
    rw [row, hrows, flattened, flattenedList_eq_map]
    rfl

/-- A tuple shows flat when its elements are regrouped to what they are flattened to. -/
theorem showsFlat_tuple (h : ts.map regrouped = ts.map flattened) : (tuple ts).ShowsFlat := by
  refine showsFlat_of_not_isUnion rfl ?_
  rw [row, map_ofRow_rows, h, flattened, flattenedList_eq_map]
  rfl

/-- A union shows flat when its members do. -/
theorem showsFlat_union (h : ∀ u ∈ t :: ts, u.ShowsFlat) : (union (t :: ts)).ShowsFlat := by
  refine ⟨?_, nofun⟩
  have each : ∀ us : List Ty, (∀ u ∈ us, u.ShowsFlat) → ∀ front : List (Option Ty),
      Ty.groups (front ++ us.flatMap fun u => none :: u.row) =
        Ty.groups front ++ us.flatMap fun u => u.flattened.alternatives.map factors := by
    intro us
    induction us with
    | nil => simp
    | cons u us ih =>
      intro hus front
      obtain ⟨hu, hus⟩ := List.forall_mem_cons.1 hus
      rw [List.flatMap_cons, List.cons_append, groups_append_bar, ih hus, hu.groups,
        List.flatMap_cons]
  obtain ⟨ht, hts⟩ := List.forall_mem_cons.1 h
  rw [row_union, each ts hts, ht.groups, flattened_union, alternatives, List.map_flatMap,
    List.flatMap_cons]

/-- An intersection shows flat when its members do and none of them is a union. -/
theorem showsFlat_intersection (h : ∀ u ∈ t :: ts, u.ShowsFlat)
    (hunion : ∀ u ∈ t :: ts, u.isUnion = false) : (intersection (t :: ts)).ShowsFlat := by
  refine showsFlat_of_not_isUnion rfl ?_
  have hrows : (t :: ts).flatMap row = (t :: ts).flatMap fun u => u.flattened.factors.map some :=
    List.flatMap_congr fun u hu => (h u hu).row (hunion u hu)
  rw [row_intersection, ← List.flatMap_cons, hrows, flattened_intersection, factors,
    List.map_flatMap]

/-- A tidy type is shown as it is. -/
theorem IsPlain.showsFlat (h : t.IsPlain) (ht : t.IsTidy) : t.ShowsFlat := by
  have each : ∀ {us : List Ty}, (∀ u ∈ us, u.IsPlain) → (∀ u ∈ us, u.IsTidy → u.ShowsFlat) →
      AreTidy us → us.map regrouped = us.map flattened := fun hus ih htidy =>
    List.map_congr_left fun u hu =>
      (ih u hu (areTidy_iff.1 htidy u hu)).regrouped_eq (hus u hu).isFlat
  induction h with
  | intrinsic | typeParameter => exact showsFlat_of_not_isUnion rfl rfl
  | reference _ hplain ih => exact showsFlat_reference (each hplain ih ht)
  | tuple hplain ih => exact showsFlat_tuple (each hplain ih ht)
  | @array element hplain ih =>
    refine showsFlat_of_not_isUnion rfl ?_
    have hregrouped := (ih ht).regrouped_eq hplain.isFlat
    exact congrArg (fun u => [some (Ty.array u)]) hregrouped
  | @union types hlength hplain ih =>
    obtain ⟨u, us, rfl⟩ := List.exists_cons_of_length_pos (Nat.lt_of_lt_of_le Nat.two_pos hlength)
    exact showsFlat_union fun v hv => ih v hv (areTidy_iff.1 ht v hv)
  | @intersection types hlength hplain ih =>
    obtain ⟨u, us, rfl⟩ := List.exists_cons_of_length_pos (Nat.lt_of_lt_of_le Nat.two_pos hlength)
    exact showsFlat_intersection (fun v hv => ih v hv (areTidy_iff.1 ht.1 v hv)) ht.2

/-- Plain types without unions as members of intersections are the same, once flattened, if they are
shown alike. -/
theorem flattened_eq_of_text_eq {u : Ty} (ht : t.IsPlain) (hu : u.IsPlain) (ht' : t.IsTidy)
    (hu' : u.IsTidy) (h : t.text = u.text) : t.flattened = u.flattened := by
  rw [← (ht.showsFlat ht').regrouped_eq ht.isFlat, ← (hu.showsFlat hu').regrouped_eq hu.isFlat]
  exact regrouped_eq_of_text_eq ht hu h

/-- A union inside of an intersection is shown like a union of an intersection. -/
theorem grouped_union_shown_alike :
    let named (name : String) : Ty := .reference name none [] none
    let grouped : Ty := .intersection [named "A", .union [named "B", named "C"]]
    let plain : Ty := .union [.intersection [named "A", named "B"], named "C"]
    grouped.IsPlain ∧ plain.IsPlain ∧ grouped.text = plain.text ∧
      grouped.flattened ≠ plain.flattened := by
  intro named grouped plain
  have word : ∀ {name : String}, IsWord name → (named name).IsPlain :=
    fun hname => .reference hname nofun
  have hA := word (by decide : IsWord "A")
  have hB := word (by decide : IsWord "B")
  have hC := word (by decide : IsWord "C")
  have pair : ∀ {t u : Ty}, t.IsPlain → u.IsPlain → ∀ v ∈ [t, u], v.IsPlain :=
    fun ht hu => List.forall_mem_cons.2 ⟨ht, List.forall_mem_singleton.2 hu⟩
  refine ⟨.intersection (Nat.le_refl 2) (pair hA (.union (Nat.le_refl 2) (pair hB hC))),
    .union (Nat.le_refl 2) (pair (.intersection (Nat.le_refl 2) (pair hA hB)) hC), rfl, nofun⟩

end

end Ty

end ApiAtlas
