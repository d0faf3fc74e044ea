import Reimport.Path

/-!
# Name patterns

A pattern for one file name: `*` stands for any run of characters, `?` for any
one character, `[…]` for one character of a set and `[!…]` for one outside it.
A set lists characters and ranges; a closing bracket right at its start belongs
to it, and a bracket that is never closed stands for itself.  Case matters, and
a leading dot is like any other character.

A pattern for paths is a list of such patterns, where the component `**` alone
stands for any number of directories.
-/
namespace Reimport.Glob

/-- What one place of a name has to match. -/
inductive Atom where
  /-- Exactly this character. -/
  | one (c : Char)
  /-- Any character. -/
  | any
  /-- Any run of characters. -/
  | run
  /-- A character inside the ranges, or outside all of them if `negated`. -/
  | set (negated : Bool) (ranges : List (Char × Char))
  deriving DecidableEq, Repr

/-- The inside of a set whose opening bracket stands just before the text, and
what follows its closing bracket.  A closing bracket at the very start, after
the `!` if there is one, does not close the set. -/
def set? (text : Text) : Option (Text × Text) :=
  let (front, rest) : Text × Text := match text with
    | '!' :: ']' :: rest => (['!', ']'], rest)
    | '!' :: rest => (['!'], rest)
    | ']' :: rest => ([']'], rest)
    | rest => ([], rest)
  match rest.dropWhile (· ≠ ']') with
  | _ :: after => some (front ++ rest.takeWhile (· ≠ ']'), after)
  | [] => none

theorem set?_length {text inside after : Text} (h : set? text = some (inside, after)) :
    after.length < text.length := by
  have key : ∀ (rest : Text) (b : Char) (tail : Text),
      rest.dropWhile (· ≠ ']') = b :: tail → tail.length < rest.length := by
    intro rest b tail heq
    have hlen : (rest.dropWhile (· ≠ ']')).length ≤ rest.length :=
      (List.dropWhile_suffix _).sublist.length_le
    rw [heq, List.length_cons] at hlen
    omega
  simp only [set?] at h
  split at h
  · rename_i _ b tail heq
    simp only [Option.some.injEq, Prod.mk.injEq] at h
    have := key _ b tail heq
    rw [← h.2]
    refine Nat.lt_of_lt_of_le this ?_
    split <;> simp only [List.length_cons] <;> omega
  · simp at h

/-- The parts of the inside of a set between the hyphens that make ranges.  Such
a hyphen has a character before it, and the next one comes no sooner than two
characters after it.  `wait` characters are passed over first. -/
def chunks (wait : Nat) (chunk : Text) : Text → List Text
  | [] => [chunk.reverse]
  | c :: rest =>
    if wait = 0 ∧ c = '-' then chunk.reverse :: chunks 2 [] rest
    else chunks (wait - 1) (c :: chunk) rest

/-- A hyphen at the end of a set makes no range. -/
def closeHyphen : List Text → List Text
  | [] => []
  | [chunk] => [chunk]
  | [chunk, []] => [chunk ++ ['-']]
  | chunk :: rest => chunk :: closeHyphen rest

/-- Takes out the ranges that run backwards, last one first, together with
their two ends. -/
def withoutBackward : List Text → List Text
  | [] => []
  | chunk :: rest =>
    match withoutBackward rest with
    | [] => [chunk]
    | next :: more =>
      match chunk.getLast?, next with
      | some low, high :: tail =>
        if low > high then (chunk.dropLast ++ tail) :: more else chunk :: next :: more
      | _, _ => chunk :: next :: more

/-- The characters of a set, each marked as to whether it is a hyphen that makes
a range. -/
def marked : List Text → List (Char × Bool)
  | [] => []
  | [chunk] => chunk.map (·, false)
  | chunk :: rest => chunk.map (·, false) ++ ('-', true) :: marked rest

/-- The ranges of a set; a single character is a range of its own. -/
def rangesOf : List (Char × Bool) → List (Char × Char)
  | (low, _) :: ('-', true) :: (high, _) :: rest => (low, high) :: rangesOf rest
  | (c, _) :: rest => (c, c) :: rangesOf rest
  | [] => []

/-- The atom for the inside of a set. -/
def setAtom (inside : Text) : Atom :=
  let parts := match inside with
    | '!' :: _ => chunks 2 [] inside
    | _ => chunks 1 [] inside
  match marked (withoutBackward (closeHyphen parts)) with
  | [] => .set false []
  | [('!', _)] => .any
  | ('!', _) :: rest => .set true (rangesOf rest)
  | all => .set false (rangesOf all)

/-- The atoms of a pattern for one name. -/
def atoms : Text → List Atom
  | [] => []
  | '*' :: rest => .run :: atoms rest
  | '?' :: rest => .any :: atoms rest
  | '[' :: rest =>
    match h : set? rest with
    | some (inside, after) =>
      have := set?_length h
      setAtom inside :: atoms after
    | none => .one '[' :: atoms rest
  | c :: rest => .one c :: atoms rest
termination_by text => text.length
decreasing_by all_goals (simp only [List.length_cons]; omega)

/-- Whether an atom for a single character takes a given one. -/
def Atom.takes (atom : Atom) (c : Char) : Bool :=
  match atom with
  | .one d => c = d
  | .any | .run => true
  | .set negated ranges => (ranges.any fun range => range.1 ≤ c && c ≤ range.2) ≠ negated

/-- Whether a name matches a list of atoms from end to end. -/
def matchAtoms : List Atom → Text → Bool
  | [], [] => true
  | [], _ :: _ => false
  | .run :: atoms, [] => matchAtoms atoms []
  | .run :: atoms, c :: name => matchAtoms atoms (c :: name) || matchAtoms (.run :: atoms) name
  | _ :: _, [] => false
  | atom :: atoms, c :: name => atom.takes c && matchAtoms atoms name
termination_by atoms name => (atoms.length, name.length)

/-- A text and all its endings, the longest first. -/
def endings : Text → List Text
  | [] => [[]]
  | c :: rest => (c :: rest) :: endings rest

@[simp] theorem head?_endings (name : Text) : (endings name).head? = some name := by
  cases name <;> rfl

/-- Given which endings of a name match a list of atoms, tells which endings
match the list with one more atom in front.  One pass over the name is enough,
however many ways there are to divide it among the atoms. -/
def Atom.before (atom : Atom) : Text → List Bool → List Bool
  | c :: name, here :: later =>
    let after := atom.before name later
    (match atom with
      | .run => here || after.headD false
      | _ => atom.takes c && later.headD false) :: after
  | _, row => if atom = .run then row else [false]

theorem Atom.before_endings (atom : Atom) (atoms : List Atom) (name : Text) :
    atom.before name ((endings name).map (matchAtoms atoms)) =
      (endings name).map (matchAtoms (atom :: atoms)) := by
  induction name with
  | nil => cases atom <;> simp [before, endings, matchAtoms]
  | cons c name ih =>
    simp only [endings, List.map_cons, before, ih, List.headD_eq_head?_getD, List.head?_map,
      head?_endings, Option.map_some, Option.getD_some, List.cons.injEq, and_true]
    cases atom <;> simp [matchAtoms]

/-- Which endings of a name match a list of atoms. -/
def matchRow (atoms : List Atom) (name : Text) : List Bool :=
  atoms.foldr (fun atom row => atom.before name row) ((endings name).map List.isEmpty)

theorem matchRow_eq (atoms : List Atom) (name : Text) :
    matchRow atoms name = (endings name).map (matchAtoms atoms) := by
  induction atoms with
  | nil =>
    refine List.map_congr_left fun ending _ => ?_
    cases ending <;> simp [matchAtoms]
  | cons atom atoms ih => rw [← Atom.before_endings, ← ih, matchRow, List.foldr_cons, matchRow]

/-- Whether a name matches a pattern. -/
def matchesName (pattern name : Text) : Bool := (matchRow (atoms pattern) name).headD false

theorem matchesName_eq (pattern name : Text) :
    matchesName pattern name = matchAtoms (atoms pattern) name := by
  simp [matchesName, matchRow_eq, List.headD_eq_head?_getD]

/-- One component of a pattern for paths. -/
inductive Component where
  /-- Any number of directories, none of them reached through a link. -/
  | anyDepth
  /-- An entry whose name matches the pattern. -/
  | wild (pattern : Text)
  /-- The entry of exactly this name. -/
  | exactly (name : Name)
  /-- A directory, required by a slash at the end of the pattern. -/
  | itself
  deriving DecidableEq, Repr

/-- Whether a pattern component holds a character with a special meaning. -/
def isWild (part : Text) : Bool := part.any fun c => c = '*' || c = '?' || c = '['

/-- Whether a component has two neighbouring stars. -/
def hasDoubleStar : Text → Bool
  | '*' :: '*' :: _ => true
  | _ :: rest => hasDoubleStar rest
  | [] => false

/-- The component that a part of a path pattern stands for; a double star inside
a longer part stands for none. -/
def component? (part : Text) : Option Component :=
  if part = ['*', '*'] then some .anyDepth
  else if hasDoubleStar part then none
  else if isWild part then some (.wild part)
  else some (.exactly part)

/-- The components of a path pattern. -/
def components? (pattern : Text) : Option (List Component) := do
  let parts ← (Path.partsOf pattern).mapM component?
  return if pattern.getLast? = some '/' then parts ++ [.itself] else parts

end Reimport.Glob
