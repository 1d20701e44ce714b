import ApiAtlas.Path.Lexical
import ApiAtlas.Proofs.Text.Pieces
import Mathlib.Data.List.TakeWhile

/-!
# Segments of paths

A path is its segments with slashes between them. A path under some folders is split, joined and
normalised segment by segment: names stay (`foldl_pushSegment_names`), and as many climbs as there
are names before them take these back (`foldl_pushSegment_climbs`).
-/

set_option autoImplicit false

namespace ApiAtlas.Path

open Text (splitOn joinWith)

/-- A name in a path, as opposed to a dot segment or to nothing between two slashes. -/
def IsName (segment : List Char) : Prop :=
  segment ≠ [] ∧ segment ≠ ['.'] ∧ segment ≠ ['.', '.']

instance (segment : List Char) : Decidable (IsName segment) :=
  inferInstanceAs (Decidable (_ ∧ _))

/-- A relative path that consists of names only. -/
def IsNormal (path : List Char) : Prop :=
  ∀ segment ∈ splitOn '/' path, IsName segment

instance (path : List Char) : Decidable (IsNormal path) :=
  inferInstanceAs (Decidable (∀ segment ∈ splitOn '/' path, IsName segment))

/-- The path of something in a folder, by the names of the folders that lead there. -/
def under (folders : List (List Char)) (path : List Char) : List Char :=
  folders.foldr (fun folder rest => folder ++ '/' :: rest) path

variable {folders names above segments : List (List Char)} {path last : List Char}

/-- What stands in no folders has its own path. -/
@[simp]
theorem under_nil (path : List Char) : under [] path = path :=
  rfl

/-- What stands in a first folder and further ones has the path of the first one, a slash and the
path in it. -/
@[simp]
theorem under_cons (folder : List Char) (folders : List (List Char)) (path : List Char) :
    under (folder :: folders) path = folder ++ '/' :: under folders path :=
  rfl

/-- What stands in folders of folders has the path in the inner ones after that of the outer ones.
-/
theorem under_append (folders folders' : List (List Char)) (path : List Char) :
    under (folders ++ folders') path = under folders (under folders' path) := by
  induction folders with
  | nil => rfl
  | cons folder folders ih => rw [List.cons_append, under_cons, ih, under_cons]

/-- What is added to a path is added to it in folders too. -/
theorem under_append_right (folders : List (List Char)) (path more : List Char) :
    under folders (path ++ more) = under folders path ++ more := by
  induction folders with
  | nil => rfl
  | cons folder folders ih => simp [ih]

/-- A path in folders is split into the folders and the segments of the path. -/
theorem splitOn_under (h : ∀ folder ∈ folders, '/' ∉ folder) (path : List Char) :
    splitOn '/' (under folders path) = folders ++ splitOn '/' path := by
  induction folders with
  | nil => rfl
  | cons folder folders ih =>
    obtain ⟨hfolder, hfolders⟩ := List.forall_mem_cons.1 h
    rw [under_cons, Text.splitOn_eq, List.splitOn_append_cons_self_of_not_mem hfolder,
      ← Text.splitOn_eq, ih hfolders, List.cons_append]

/-- Folders and names are joined to the path of the joined names in the folders. -/
theorem joinWith_append (h : names ≠ []) (folders : List (List Char)) :
    joinWith ['/'] (folders ++ names) = under folders (joinWith ['/'] names) := by
  induction folders with
  | nil => rfl
  | cons folder folders ih =>
    have hne : folders ++ names ≠ [] := List.append_ne_nil_of_right_ne_nil _ h
    rw [List.cons_append, Text.joinWith_cons hne, ih, under_cons, List.append_assoc]
    rfl

/-- A path is what its last segments name under the folders that its first segments name. -/
theorem eq_under_of_splitOn (h : splitOn '/' path = folders ++ names) (hnames : names ≠ []) :
    path = under folders (joinWith ['/'] names) := by
  rw [← joinWith_append hnames, ← h, Text.joinWith_splitOn]

/-- The folders that a path is split into hold no slash. -/
theorem slash_notMem_of_splitOn (h : splitOn '/' path = folders ++ names) :
    ∀ folder ∈ folders, '/' ∉ folder := fun _ hfolder =>
  Text.sep_notMem_of_mem_splitOn (h ▸ List.mem_append_left _ hfolder)

/-! ## Folders -/

/-- The folder of a path is what stands before its last slash, when that slash stands alone. -/
theorem folder_append_cons (front : List Char) {c : Char} (hc : c ≠ '/') (hlast : '/' ∉ last) :
    folder (front ++ c :: '/' :: last) = front ++ [c] := by
  have hnoSlash : ∀ a ∈ last.reverse, decide (a ≠ '/') = true := fun a ha =>
    decide_eq_true fun h => hlast (h ▸ List.mem_reverse.1 ha)
  have hhead : ((front ++ c :: '/' :: last).reverse.dropWhile (· ≠ '/')).reverse =
      front ++ [c, '/'] := by
    have hreverse : (front ++ c :: '/' :: last).reverse =
        last.reverse ++ '/' :: c :: front.reverse := by simp
    rw [hreverse, List.dropWhile_append_of_pos hnoSlash]
    simp
  rw [folder, hhead]
  simp [hc]

/-- A name has a last character, which is no slash. -/
theorem exists_concat_of_name {name : List Char} (h : name ≠ [] ∧ '/' ∉ name) :
    ∃ start c, name = start ++ [c] ∧ c ≠ '/' := by
  obtain ⟨start, c, hname⟩ := (List.eq_nil_or_concat name).resolve_left h.1
  rw [List.concat_eq_append] at hname
  exact ⟨start, c, hname, fun hc => h.2 (by simp [hname, hc])⟩

/-- Folders that are joined end in the last character of the last of them. -/
theorem joinWith_folders (front : List (List Char)) (start : List Char) (c : Char) :
    joinWith ['/'] (front ++ [start ++ [c]]) = under front start ++ [c] := by
  rw [joinWith_append (List.cons_ne_nil _ []), joinWith, under_append_right]

/-- In a path the last character of a folder stands before a slash. -/
theorem under_concat (front : List (List Char)) (start : List Char) (c : Char)
    (path : List Char) :
    under (front ++ [start ++ [c]]) path = under front start ++ c :: '/' :: path := by
  rw [under_append, under_cons, under_nil, List.append_assoc, under_append_right]
  rfl

/-- The folder of a path is named by all its segments but the last. -/
theorem folder_under (hnames : ∀ name ∈ folders, name ≠ [] ∧ '/' ∉ name) (hlast : '/' ∉ last) :
    folder (under folders last) = joinWith ['/'] folders := by
  rcases List.eq_nil_or_concat folders with rfl | ⟨front, name, rfl⟩
  · have hhead : last.reverse.dropWhile (· ≠ '/') = [] := by
      rw [List.dropWhile_eq_nil_iff]
      exact fun c hc => decide_eq_true fun h => hlast (h ▸ List.mem_reverse.1 hc)
    rw [under_nil, folder, hhead]
    rfl
  · rw [List.concat_eq_append] at hnames ⊢
    obtain ⟨start, c, rfl, hc⟩ := exists_concat_of_name
      (hnames name (List.mem_append_right _ (List.mem_singleton_self name)))
    rw [under_concat, folder_append_cons _ hc hlast, joinWith_folders]

/-- A relative path in a folder. -/
theorem join_joinWith (hnames : ∀ name ∈ folders, name ≠ [] ∧ '/' ∉ name)
    (hpath : path.head? ≠ some '/') :
    join (joinWith ['/'] folders) path = under folders path := by
  rw [join, if_neg hpath]
  rcases List.eq_nil_or_concat folders with rfl | ⟨front, name, rfl⟩
  · rfl
  · rw [List.concat_eq_append] at hnames ⊢
    obtain ⟨start, c, rfl, hc⟩ := exists_concat_of_name
      (hnames name (List.mem_append_right _ (List.mem_singleton_self name)))
    rw [under_concat, joinWith_folders]
    simp [hc]

/-! ## Normal paths -/

/-- Pushing a name puts it on top. -/
theorem pushSegment_name {name : List Char} (h : IsName name) (rooted : Bool)
    (above : List (List Char)) : pushSegment rooted above name = name :: above := by
  obtain ⟨hempty, hdot, hdots⟩ := h
  unfold pushSegment
  simp [hempty, hdot, hdots]

/-- A climb takes back the name before it. -/
theorem pushSegment_climb {name : List Char} (h : IsName name) (rooted : Bool)
    (above : List (List Char)) : pushSegment rooted (name :: above) ['.', '.'] = above := by
  unfold pushSegment
  simp [h.2.2]

/-- Pushing names one after the other puts them on top, the last one first. -/
theorem foldl_pushSegment_names (hnames : ∀ name ∈ names, IsName name) (rooted : Bool)
    (above : List (List Char)) :
    names.foldl (pushSegment rooted) above = names.reverse ++ above := by
  induction names generalizing above with
  | nil => rfl
  | cons name names ih =>
    obtain ⟨hname, hnames⟩ := List.forall_mem_cons.1 hnames
    rw [List.foldl_cons, pushSegment_name hname, ih hnames]
    simp

/-- As many climbs as there are names take the names back. -/
theorem foldl_pushSegment_climbs (hnames : ∀ name ∈ names, IsName name) (rooted : Bool)
    (above : List (List Char)) :
    (List.replicate names.length ['.', '.']).foldl (pushSegment rooted) (names ++ above) =
      above := by
  induction names with
  | nil => rfl
  | cons name names ih =>
    obtain ⟨hname, hnames⟩ := List.forall_mem_cons.1 hnames
    rw [List.length_cons, List.replicate_succ, List.foldl_cons, List.cons_append,
      pushSegment_climb hname, ih hnames]

/-- A relative path whose segments come down to some names. -/
theorem normalize_eq (segments : List (List Char)) (hroot : path.head? ≠ some '/')
    (hsegments : segments ≠ []) (hnames : ∀ name ∈ segments, IsName name)
    (h : (splitOn '/' path).foldl (pushSegment false) [] = segments.reverse) :
    normalize path = joinWith ['/'] segments := by
  have hslashes : rootSlashes path = 0 := by
    have hnone : path.takeWhile (· = '/') = [] := by
      cases path with
      | nil => rfl
      | cons c rest =>
        refine List.takeWhile_cons_of_neg ?_
        simpa using hroot
    rw [rootSlashes, hnone]
  have hne : joinWith ['/'] segments ≠ [] := by
    obtain ⟨name, rest, rfl⟩ := List.exists_cons_of_ne_nil hsegments
    exact Text.joinWith_ne_nil (hnames name List.mem_cons_self).1 _ rest
  have htext : List.replicate (rootSlashes path) '/' ++ joinWith ['/'] ((splitOn '/' path).foldl
      (pushSegment (rootSlashes path ≠ 0)) []).reverse = joinWith ['/'] segments := by
    rw [hslashes, List.replicate_zero, List.nil_append]
    refine congrArg (joinWith ['/']) ?_
    exact (congrArg List.reverse h).trans (List.reverse_reverse segments)
  rw [normalize]
  simp only [htext]
  rw [if_neg (mt List.isEmpty_iff.1 hne)]

/-! ## Relative paths -/

/-- The relative path that climbs some folders up and then goes down by some names. -/
def relative (climbs : Nat) (names : List (List Char)) : List Char :=
  (if climbs = 0 then ['.', '/'] else (List.replicate climbs ['.', '.', '/']).flatten) ++
    joinWith ['/'] names

/-- Whether a relative path leads from one file to another: it climbs to a folder that is above both
files, and goes down from there. -/
def IsPathTo (start goal path : List Char) : Prop :=
  ∃ common climbed names, (splitOn '/' start).dropLast = common ++ climbed ∧
    splitOn '/' goal = common ++ names ∧ names ≠ [] ∧ path = relative climbed.length names

/-- The dot segments at the start of a relative path. -/
def climbSegments (climbs : Nat) : List (List Char) :=
  if climbs = 0 then [['.']] else List.replicate climbs ['.', '.']

/-- What follows some climbs stands in as many folders that are called by two dots. -/
theorem flatten_climbs (climbs : Nat) (path : List Char) :
    (List.replicate climbs ['.', '.', '/']).flatten ++ path =
      under (List.replicate climbs ['.', '.']) path := by
  induction climbs with
  | zero => rfl
  | succ climbs ih =>
    rw [List.replicate_succ, List.flatten_cons, List.append_assoc, ih, List.replicate_succ,
      under_cons]
    rfl

/-- A relative path consists of its climbs and its names. -/
theorem relative_eq_under (climbs : Nat) (names : List (List Char)) :
    relative climbs names = under (climbSegments climbs) (joinWith ['/'] names) := by
  unfold relative climbSegments
  split
  · rfl
  · exact flatten_climbs climbs _

/-- A climb starts with a dot. -/
theorem exists_cons_climb (climbs : Nat) (path : List Char) :
    ∃ rest, under (climbSegments climbs) path = '.' :: rest := by
  cases climbs with
  | zero => exact ⟨_, rfl⟩
  | succ climbs => exact ⟨_, rfl⟩

/-- The segments of climbs hold no slash. -/
theorem slash_notMem_climbSegments (climbs : Nat) :
    ∀ segment ∈ climbSegments climbs, '/' ∉ segment := by
  intro segment h
  unfold climbSegments at h
  split at h
  · rw [List.mem_singleton.1 h]
    decide
  · rw [List.eq_of_mem_replicate h]
    decide

/-- As many climbs as there are names on top take these away. -/
theorem foldl_pushSegment_climbSegments (hnames : ∀ name ∈ names, IsName name) (rooted : Bool)
    (above : List (List Char)) :
    (climbSegments names.length).foldl (pushSegment rooted) (names ++ above) = above := by
  unfold climbSegments
  split
  case isTrue hnone =>
    rw [List.eq_nil_of_length_eq_zero hnone]
    unfold pushSegment
    simp
  case isFalse => exact foldl_pushSegment_climbs hnames rooted above

/-- A relative path has no slash at its start, nor has one in folders. -/
theorem head?_under (hfolders : ∀ folder ∈ folders, IsName folder ∧ '/' ∉ folder)
    (hpath : path.head? ≠ some '/') : (under folders path).head? ≠ some '/' := by
  cases folders with
  | nil => exact hpath
  | cons folder folders =>
    obtain ⟨⟨hne, -⟩, hslash⟩ := hfolders folder List.mem_cons_self
    obtain ⟨c, rest, rfl⟩ := List.exists_cons_of_ne_nil hne
    intro hhead
    exact hslash (Option.some.inj hhead ▸ List.mem_cons_self)

/-- Climbing from a folder by as many names as it has below another one leads to that one. -/
theorem normalize_climb {common climbed : List (List Char)}
    (hfolders : ∀ folder ∈ common ++ climbed, IsName folder ∧ '/' ∉ folder)
    (hpath : IsNormal path) :
    normalize (under (common ++ climbed) (under (climbSegments climbed.length) path)) =
      under common path := by
  have hcommon : ∀ name ∈ common, IsName name := fun name h =>
    (hfolders name (List.mem_append_left _ h)).1
  have hclimbed : ∀ name ∈ climbed.reverse, IsName name := fun name h =>
    (hfolders name (List.mem_append_right _ (List.mem_reverse.1 h))).1
  have hne := Text.splitOn_ne_nil '/' path
  rw [normalize_eq (common ++ splitOn '/' path), joinWith_append hne,
    Text.joinWith_splitOn]
  case hroot =>
    obtain ⟨rest, hrest⟩ := exists_cons_climb climbed.length path
    refine head?_under hfolders ?_
    rw [hrest]
    simp
  case hsegments => exact List.append_ne_nil_of_right_ne_nil _ hne
  case hnames => exact List.forall_mem_append.2 ⟨hcommon, hpath⟩
  case h =>
    rw [splitOn_under fun folder h => (hfolders folder h).2,
      splitOn_under (slash_notMem_climbSegments _), List.foldl_append, List.foldl_append,
      foldl_pushSegment_names fun name h => (hfolders name h).1, List.reverse_append,
      List.append_nil, ← List.length_reverse, foldl_pushSegment_climbSegments hclimbed,
      foldl_pushSegment_names hpath, List.reverse_append]

end ApiAtlas.Path
