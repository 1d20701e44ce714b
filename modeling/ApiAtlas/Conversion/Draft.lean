import ApiAtlas.Atlas.Children
import ApiAtlas.Report.Diagnostic
import ApiAtlas.Settings.Basic
import ApiAtlas.Source.Decl

/-!
# The atlas under construction

Conversion builds the atlas step by step. The draft is what it has built so far, with the problems
it has met; the site is where it stands: the entry that new entries belong to, the type parameters
that can be seen from there, and the file that is being read. A site is handed down and never
changed, so that leaving a declaration needs no step of its own.

A step of conversion is a value of `Conv`: it says what the step yields, which drafts it passes on
the way, so that what holds all along can be stated and not only what holds in the end, and which
declarations it visits.
-/

set_option autoImplicit false

namespace ApiAtlas

/-- What conversion has built so far. -/
structure Draft where
  atlas : Atlas
  diagnostics : Array Diagnostic
  deriving Inhabited

/-- Where conversion stands. -/
structure Site where
  scope : EntryId
  bound : List String := []
  file : Option String := none
  external : Bool := false
  settings : Settings := {}

namespace Site

/-- The site inside an entry, with more type parameters in sight. -/
def within (s : Site) (scope : EntryId) (bound : List String) : Site :=
  { s with scope := scope, bound := bound ++ s.bound }

end Site

/-- The last element of two lists is that of the second one, if there is one. -/
theorem getLastD_append {α : Type} (l l' : List α) (a : α) :
    (l ++ l').getLastD a = l'.getLastD (l.getLastD a) := by
  induction l generalizing a with
  | nil => rfl
  | cons b l ih => rw [List.cons_append, List.getLastD_cons, List.getLastD_cons, ih]

/-- A declaration that is visited: the name that it is declared under, the kind of the entry that it
stands in, and the entry that it gets, if it gets one. -/
structure Visit where
  decl : Source.Decl
  name : String
  container : Kind
  entry : Option EntryId

/-- A step of conversion: what it makes of a draft, the drafts that it passes on the way, one for
each change, and the declarations that it visits, in order. The last of the drafts is the one it
ends in. -/
structure Conv (α : Type) where
  run : Draft → α × Draft
  passed : Draft → List Draft
  visited : Draft → List Visit
  ends : ∀ x, (run x).2 = (passed x).getLastD x

namespace Conv

variable {α β : Type}

/-- One change of the draft, which also yields a value. -/
def update (f : Draft → α × Draft) : Conv α :=
  ⟨f, fun x => [(f x).2], fun _ => [], fun _ => rfl⟩

/-- A value read off the atlas built so far. -/
def ask (f : Atlas → α) : Conv α :=
  ⟨fun x => (f x.atlas, x), fun _ => [], fun _ => [], fun _ => rfl⟩

instance : Monad Conv where
  pure a := ⟨fun x => (a, x), fun _ => [], fun _ => [], fun _ => rfl⟩
  bind c k :=
    { run := fun x => (k (c.run x).1).run (c.run x).2
      passed := fun x => c.passed x ++ (k (c.run x).1).passed (c.run x).2
      visited := fun x => c.visited x ++ (k (c.run x).1).visited (c.run x).2
      ends := fun x => by rw [getLastD_append, ← c.ends, (k (c.run x).1).ends] }

/-- A step that looks for the entry of a declaration, with the visit of the declaration noted. -/
def visiting (s : Site) (d : Source.Decl) (name : String) (c : Conv (Option EntryId)) :
    Conv (Option EntryId) :=
  { c with
    visited := fun x =>
      ⟨d, name, ((x.atlas.get? s.scope).getD default).kind, (c.run x).1⟩ :: c.visited x }

/-- A step that is noted as a visit runs as it does otherwise. -/
@[simp]
theorem run_visiting (s : Site) (d : Source.Decl) (name : String) (c : Conv (Option EntryId)) :
    (visiting s d name c).run = c.run := rfl

/-- Changes the atlas built so far. -/
def change (f : Atlas → Atlas) : Conv Unit :=
  update fun d => ((), { d with atlas := f d.atlas })

/-- Changes one entry. -/
def changeEntry (id : EntryId) (f : Entry → Entry) : Conv Unit :=
  change fun a => a.modify id f

/-- Changes the details of a declaration. -/
def changeDetails (id : EntryId) (f : Details → Details) : Conv Unit :=
  changeEntry id fun e => e.mapDetails f

/-- Adds an entry and gives its number. -/
def addEntry (e : Entry) : Conv EntryId :=
  update fun d =>
    let (a, id) := d.atlas.add e
    (id, { d with atlas := a })

/-- Adds the entry of a symbol to the children of a container, and gives its number. -/
def enter (scope : EntryId) (e : Entry) (symbol : Option String) : Conv EntryId :=
  update fun d =>
    let (a, id) := d.atlas.enter scope e symbol
    (id, { d with atlas := a })

/-- Reports a problem at a site. The file that is being read becomes one of its details, unless
the details name a file already. -/
def report (s : Site) (code : Code) (message : String) (details : List (String × Json)) :
    Conv Unit :=
  let named := details.any (·.1 == "file")
  let file := match s.file with
    | some f => if f.isEmpty || named then [] else [("file", Json.str f)]
    | none => []
  update fun d =>
    ((), { d with diagnostics := d.diagnostics.push ⟨code, message, details ++ file⟩ })

end Conv

end ApiAtlas
