import Reimport.Proofs.FileTree.Straight

/-!
# Resolving a path

Resolving is more lenient than following: it asks for no directories and gives up
only on a circle of links.  What a path leads to is written down once as a relation
that forgets about the bounds of both (`Leads`), together with the number of links
on the way.  That number settles the circles: a link that is met again while its
target is being followed would be on a way with fewer links than itself.  So where
following a path succeeds, resolving it gives the same place
(`canonicalPlace_of_placeOf`).

Resolving reads the links of a tree and nothing else (`resolveFrom_congr`): the
bound on the links that are open at once is never met, because they are different
entries of the tree (`Room.next`).
-/
namespace Reimport.FileTree

theorem targetNames_cases (target : Text) :
    targetNames target = Path.partsOf target ∨
      targetNames target = Path.partsOf target ++ [Path.dot] := by
  simp only [targetNames]
  cases (Text.splitAt '/' target).getLast? with
  | none => exact .inl (List.append_nil _)
  | some last =>
    by_cases h : (decide (last = []) || decide (last = Path.dot)) = true
    · exact .inr (by simp only [h, if_true])
    · exact .inl (by simp only [if_neg h, List.append_nil])

/-- Following names from a place leads to another, through a number of links. -/
inductive Leads (tree : FileTree) : Place → List Name → Place → Nat → Prop where
  /-- No names lead nowhere else. -/
  | done (here : Place) : Leads tree here [] here 0
  /-- The name `.` is passed over. -/
  | stay {here place : Place} {rest : List Name} {count : Nat} :
    Leads tree here rest place count → Leads tree here (Path.dot :: rest) place count
  /-- The name `..` leads one directory up. -/
  | up {here place : Place} {rest : List Name} {count : Nat} :
    Leads tree here.dropLast rest place count → Leads tree here (Path.dotDot :: rest) place count
  /-- Another name leads one place down if no link is there. -/
  | down {here place : Place} {name : Name} {rest : List Name} {count : Nat} :
    Path.IsProper name → tree.linkTarget? (here ++ [name]) = none →
    Leads tree (here ++ [name]) rest place count → Leads tree here (name :: rest) place count
  /-- A link leads where its target does. -/
  | through {here middle place : Place} {name : Name} {target : Text} {rest : List Name}
    {first second : Nat} :
    Path.IsProper name → tree.linkTarget? (here ++ [name]) = some target →
    Leads tree (targetBase target here) (Path.partsOf target) middle first →
    Leads tree middle rest place second → Leads tree here (name :: rest) place (first + second + 1)

namespace Leads
variable {tree : FileTree} {here place other : Place} {names : List Name} {count count' : Nat}

theorem unique (h : Leads tree here names place count) (h' : Leads tree here names other count') :
    place = other ∧ count = count' := by
  induction h generalizing other count' with
  | done here =>
    cases h'
    exact ⟨rfl, rfl⟩
  | stay _ ih =>
    cases h' with
    | stay g => exact ih g
    | down hp => exact absurd rfl hp.1
    | through hp => exact absurd rfl hp.1
  | up _ ih =>
    cases h' with
    | up g => exact ih g
    | down hp => exact absurd rfl hp.2
    | through hp => exact absurd rfl hp.2
  | down hp hl _ ih =>
    cases h' with
    | stay => exact absurd rfl hp.1
    | up => exact absurd rfl hp.2
    | down _ _ g => exact ih g
    | through _ hl' => rw [hl] at hl'; cases hl'
  | through hp hl _ _ ih ih' =>
    cases h' with
    | stay => exact absurd rfl hp.1
    | up => exact absurd rfl hp.2
    | down _ hl' => rw [hl] at hl'; cases hl'
    | through _ hl' g g' =>
      rw [hl] at hl'
      cases hl'
      obtain ⟨rfl, rfl⟩ := ih g
      obtain ⟨rfl, rfl⟩ := ih' g'
      exact ⟨rfl, rfl⟩

theorem split {first second : List Name} (h : Leads tree here (first ++ second) place count) :
    ∃ middle before after, Leads tree here first middle before ∧
      Leads tree middle second place after := by
  induction first generalizing here count with
  | nil => exact ⟨here, 0, count, .done here, h⟩
  | cons name rest ih =>
    cases h with
    | stay g =>
      obtain ⟨middle, before, after, hb, ha⟩ := ih g
      exact ⟨middle, before, after, .stay hb, ha⟩
    | up g =>
      obtain ⟨middle, before, after, hb, ha⟩ := ih g
      exact ⟨middle, before, after, .up hb, ha⟩
    | down hp hl g =>
      obtain ⟨middle, before, after, hb, ha⟩ := ih g
      exact ⟨middle, before, after, .down hp hl hb, ha⟩
    | through hp hl gt g =>
      obtain ⟨middle, before, after, hb, ha⟩ := ih g
      exact ⟨middle, _, after, .through hp hl gt hb, ha⟩

/-- A slash at the end of a link's target changes nothing about where it leads. -/
theorem of_targetNames {target : Text}
    (h : Leads tree here (targetNames target) place count) :
    ∃ count', Leads tree here (Path.partsOf target) place count' := by
  rcases targetNames_cases target with he | he
  · rw [he] at h
    exact ⟨count, h⟩
  · rw [he] at h
    obtain ⟨middle, before, after, hb, ha⟩ := h.split
    cases ha with
    | stay g =>
      cases g
      exact ⟨before, hb⟩
    | down hp => exact absurd rfl hp.1
    | through hp => exact absurd rfl hp.1

end Leads

/-- A path that can be followed leads somewhere. -/
theorem leads_of_locate {tree : FileTree} {links : Nat} {here place : Place} {names : List Name}
    (h : locate tree true links here names = .ok place) :
    ∃ count, Leads tree here names place count := by
  rw [locate_eq_ok] at h
  induction h with
  | done => exact ⟨0, .done _⟩
  | stay _ _ ih =>
    obtain ⟨count, hl⟩ := ih
    exact ⟨count, .stay hl⟩
  | up _ _ ih =>
    obtain ⟨count, hl⟩ := ih
    exact ⟨count, .up hl⟩
  | vacant enters hn => exact ⟨0, .down enters.proper (by rw [linkTarget?, hn]) (.done _)⟩
  | atLink _ _ unfollowed => cases unfollowed
  | through enters hl _ _ ih =>
    obtain ⟨count, leads⟩ := ih
    obtain ⟨middle, before, after, hb, ha⟩ := leads.split
    obtain ⟨count', ht⟩ := hb.of_targetNames
    exact ⟨_, .through enters.proper hl ht ha⟩
  | down enters _ hl _ ih =>
    obtain ⟨count, leads⟩ := ih
    exact ⟨count, .down enters.proper hl leads⟩

/-- Some links are open, each once, and as many more can be opened as the tree may have. -/
structure Room (tree : FileTree) (depth : Nat) (following : List Place) : Prop where
  nodup : following.Nodup
  linked : ∀ link ∈ following, ∃ target, tree.linkTarget? link = some target
  enough : tree.entries.length ≤ depth + following.length

theorem room_nil (tree : FileTree) : tree.Room tree.entries.length [] :=
  ⟨List.nodup_nil, fun _ h => (nomatch h), Nat.le_refl _⟩

/-- What stands at a place is an entry, except for the root directory. -/
theorem mem_entries_of_node? {tree : FileTree} {place : Place} {node : Node}
    (h : tree.node? place = some node) (nonempty : place ≠ []) : (place, node) ∈ tree.entries := by
  rw [node?, if_neg nonempty] at h
  obtain ⟨before, after, he, -⟩ := List.lookup_eq_some_iff.1 h
  rw [he]
  simp

theorem mem_entries_of_linkTarget? {tree : FileTree} {place : Place} {target : Text}
    (h : tree.linkTarget? place = some target) : place ∈ tree.entries.map Prod.fst := by
  have hn := linkTarget?_eq_some.1 h
  have nonempty : place ≠ [] := by
    rintro rfl
    cases hn
  exact List.mem_map_of_mem (mem_entries_of_node? hn nonempty)

/-- **There is room for every link that is not open yet.** -/
theorem Room.next {tree : FileTree} {depth : Nat} {following : List Place} {link : Place}
    {target : Text} (room : tree.Room depth following) (closed : link ∉ following)
    (h : tree.linkTarget? link = some target) :
    ∃ less, depth = less + 1 ∧ tree.Room less (link :: following) := by
  have nodup : (link :: following).Nodup := List.nodup_cons.2 ⟨closed, room.nodup⟩
  have linked : ∀ other ∈ link :: following, ∃ target, tree.linkTarget? other = some target := by
    intro other ho
    rcases List.mem_cons.1 ho with rfl | ho
    · exact ⟨target, h⟩
    · exact room.linked other ho
  have listed : link :: following ⊆ tree.entries.map Prod.fst := by
    intro other ho
    obtain ⟨_, ht⟩ := linked other ho
    exact mem_entries_of_linkTarget? ht
  -- Different links are different entries, so there are no more of them than entries.
  have bound := List.Nodup.length_le_of_subset nodup listed
  rw [List.length_cons, List.length_map] at bound
  have enough := room.enough
  refine ⟨depth - 1, by omega, nodup, linked, ?_⟩
  rw [List.length_cons]
  omega

/-! ## What resolving does with one name -/

section Equations
variable {tree : FileTree} {depth : Nat} {following : List Place} {here : Place} {name : Name}
  {target : Text}

theorem resolveFrom_up (rest : List Name) :
    tree.resolveFrom depth following here (Path.dotDot :: rest) =
      tree.resolveFrom depth following here.dropLast rest := by
  rw [resolveFrom, if_pos rfl]

theorem resolveFrom_down (hup : name ≠ Path.dotDot)
    (hl : tree.linkTarget? (here ++ [name]) = none) (rest : List Name) :
    tree.resolveFrom depth following here (name :: rest) =
      tree.resolveFrom depth following (here ++ [name]) rest := by
  rw [resolveFrom, if_neg hup]
  simp only [hl]

theorem resolveFrom_circle (hup : name ≠ Path.dotDot)
    (hl : tree.linkTarget? (here ++ [name]) = some target) (hm : here ++ [name] ∈ following)
    (rest : List Name) :
    tree.resolveFrom depth following here (name :: rest) =
      ⟨climb (here ++ [name]) rest, false⟩ := by
  rw [resolveFrom, if_neg hup]
  simp only [hl, if_pos hm]

theorem resolveFrom_exhausted (hup : name ≠ Path.dotDot)
    (hl : tree.linkTarget? (here ++ [name]) = some target) (rest : List Name) :
    tree.resolveFrom 0 following here (name :: rest) = ⟨climb (here ++ [name]) rest, false⟩ := by
  rw [resolveFrom, if_neg hup]
  simp only [hl, ite_self]

/-- What is reached by a first part of the names is where the rest goes on, unless a
circle was met. -/
def Resolved.andThen (reached : Resolved) (next : Place → Resolved) (rest : List Name) :
    Resolved :=
  if reached.complete then next reached.place else ⟨climb reached.place rest, false⟩

theorem resolveFrom_through (hup : name ≠ Path.dotDot)
    (hl : tree.linkTarget? (here ++ [name]) = some target) (hm : here ++ [name] ∉ following)
    (rest : List Name) :
    tree.resolveFrom (depth + 1) following here (name :: rest) =
      (tree.resolveFrom depth ((here ++ [name]) :: following) (targetBase target here)
        (Path.partsOf target)).andThen
        (fun place => tree.resolveFrom (depth + 1) following place rest) rest := by
  rw [resolveFrom, if_neg hup]
  simp only [hl, if_neg hm]
  rfl

end Equations

/-- **Resolving reads nothing but the links.** -/
theorem resolveFrom_congr {tree other : FileTree}
    (same : ∀ place, tree.linkTarget? place = other.linkTarget? place) {depth depth' : Nat}
    {following : List Place} (room : tree.Room depth following)
    (room' : other.Room depth' following) (here : Place) (names : List Name) :
    tree.resolveFrom depth following here names =
      other.resolveFrom depth' following here names := by
  -- Outside, the depth falls with every link that is opened; inside, the names run out.
  -- The two depths may differ: each tree has room for its own links.
  induction depth using Nat.strongRecOn generalizing depth' following here names with
  | ind depth deeper =>
  induction names generalizing here with
  | nil => rw [resolveFrom, resolveFrom]
  | cons name rest ih =>
    by_cases hup : name = Path.dotDot
    · rw [hup, resolveFrom_up, resolveFrom_up, ih]
    cases hl : tree.linkTarget? (here ++ [name]) with
    | none =>
      have hl' := hl
      rw [same] at hl'
      rw [resolveFrom_down hup hl, resolveFrom_down hup hl', ih]
    | some target =>
      have hl' := hl
      rw [same] at hl'
      by_cases hm : here ++ [name] ∈ following
      · rw [resolveFrom_circle hup hl hm, resolveFrom_circle hup hl' hm]
      · obtain ⟨less, rfl, inside⟩ := room.next hm hl
        obtain ⟨less', rfl, inside'⟩ := room'.next hm hl'
        rw [resolveFrom_through hup hl hm, resolveFrom_through hup hl' hm,
          deeper less (Nat.lt_succ_self less) inside inside']
        simp only [Resolved.andThen, ih]

theorem climb_append (place : Place) (first second : List Name) :
    climb place (first ++ second) = climb (climb place first) second := List.foldl_append

/-- Resolving names after others begins where the others led. -/
theorem resolveFrom_append {tree : FileTree} {depth : Nat} {following : List Place} (here : Place)
    (first second : List Name) :
    tree.resolveFrom depth following here (first ++ second) =
      (tree.resolveFrom depth following here first).andThen
        (fun place => tree.resolveFrom depth following place second) second := by
  induction first generalizing here with
  | nil =>
    rw [resolveFrom, Resolved.andThen, if_pos rfl]
    rfl
  | cons name rest ih =>
    rw [List.cons_append]
    by_cases hup : name = Path.dotDot
    · rw [hup, resolveFrom_up, resolveFrom_up, ih]
    cases hl : tree.linkTarget? (here ++ [name]) with
    | none => rw [resolveFrom_down hup hl, resolveFrom_down hup hl, ih]
    | some target =>
      have broken : (Resolved.mk (climb (here ++ [name]) (rest ++ second)) false) =
          (Resolved.mk (climb (here ++ [name]) rest) false).andThen
            (fun place => tree.resolveFrom depth following place second) second := by
        rw [Resolved.andThen, if_neg Bool.false_ne_true, climb_append]
      by_cases hm : here ++ [name] ∈ following
      · rw [resolveFrom_circle hup hl hm, resolveFrom_circle hup hl hm, broken]
      cases depth with
      | zero => rw [resolveFrom_exhausted hup hl, resolveFrom_exhausted hup hl, broken]
      | succ depth =>
        rw [resolveFrom_through hup hl hm, resolveFrom_through hup hl hm]
        simp only [Resolved.andThen, ih]
        split
        · rfl
        · rw [if_neg Bool.false_ne_true, climb_append]

/-- Resolving ends where the names lead, if the links that are open have at least as
many links on their ways as are left. -/
theorem resolveFrom_of_leads {tree : FileTree} {here place : Place} {names : List Name}
    {count : Nat} (h : Leads tree here names place count) (plain : Path.dot ∉ names)
    {depth : Nat} {following : List Place} (room : tree.Room depth following)
    (longer : ∀ link ∈ following, ∃ target middle more, tree.linkTarget? link = some target ∧
      Leads tree (targetBase target link.dropLast) (Path.partsOf target) middle more ∧
      count ≤ more) :
    tree.resolveFrom depth following here names = ⟨place, true⟩ := by
  induction h generalizing depth following with
  | done here => rw [resolveFrom]
  | stay => exact absurd List.mem_cons_self plain
  | up _ ih =>
    rw [resolveFrom_up]
    exact ih (fun hm => plain (List.mem_cons_of_mem _ hm)) room longer
  | down hp hl _ ih =>
    rw [resolveFrom_down hp.2 hl]
    exact ih (fun hm => plain (List.mem_cons_of_mem _ hm)) room longer
  | @through here middle place name target rest first second hp hl ht _ ih ih' =>
    -- A link that is open has at least as many links on its own way as are left, and this
    -- way through it has one more.
    have closed : here ++ [name] ∉ following := by
      intro hm
      obtain ⟨target', middle', more, hl', ht', hle⟩ := longer _ hm
      rw [hl] at hl'
      cases hl'
      rw [List.dropLast_concat] at ht'
      have := (ht.unique ht').2
      omega
    obtain ⟨less, rfl, inside⟩ := room.next closed hl
    rw [resolveFrom_through hp.2 hl closed, ih (Path.dot_not_mem_partsOf target) inside]
    -- Behind the link it is closed again, and fewer links are left.
    · refine ih' (fun hm => plain (List.mem_cons_of_mem _ hm)) room fun link hm => ?_
      obtain ⟨target', middle', more, hl', ht', hle⟩ := longer link hm
      exact ⟨target', middle', more, hl', ht', by omega⟩
    -- While it is open, its own way is the one that is walked.
    · intro link hm
      rcases List.mem_cons.1 hm with rfl | hm
      · refine ⟨target, middle, first, hl, ?_, Nat.le_refl _⟩
        rwa [List.dropLast_concat]
      · obtain ⟨target', middle', more, hl', ht', hle⟩ := longer link hm
        exact ⟨target', middle', more, hl', ht', by omega⟩

/-! ## Paths -/

theorem Stands.start {tree : FileTree} {cwd : Place} (h : tree.Stands cwd) (path : Path) :
    tree.Stands (start cwd path) := by
  rw [FileTree.start]
  split
  · exact stands_nil tree
  · exact h

/-- **Resolving a path that can be followed gives the place it leads to.** -/
theorem resolveFrom_of_placeOf {tree : FileTree} {cwd place : Place} {path : Path}
    (plain : Path.dot ∉ path.parts) (h : tree.placeOf cwd true path = .ok place) :
    tree.resolveFrom tree.entries.length [] (start cwd path) path.parts = ⟨place, true⟩ := by
  obtain ⟨count, hl⟩ := leads_of_locate (placeOf_eq_ok h).2
  exact resolveFrom_of_leads hl plain (room_nil tree) fun _ hm => (nomatch hm)

theorem canonical_eq_ok {tree : FileTree} {cwd : Place} {path target : Path}
    (h : tree.canonical cwd path = .ok target) :
    ∃ place, tree.canonicalPlace cwd path = .ok place ∧ target = Path.ofPlace place := by
  rw [canonical] at h
  cases hp : tree.canonicalPlace cwd path with
  | error e =>
    rw [hp] at h
    cases h
  | ok place =>
    rw [hp] at h
    exact ⟨place, rfl, (Except.ok.inj h).symm⟩

/-- The place that a path is taken to lead to, from what resolving it has reached. -/
def settle (tree : FileTree) (resolved : Resolved) : Except FileError Place :=
  if resolved.complete then .ok resolved.place
  else
    match locate tree true linkLimit [] resolved.place with
    | .error .tooManyLinks => .error (.linkCycle (Path.ofPlace resolved.place).text)
    | _ => .ok resolved.place

theorem settle_eq_ok {tree : FileTree} {resolved : Resolved} {place : Place}
    (h : tree.settle resolved = .ok place) : place = resolved.place := by
  rw [settle] at h
  split at h
  · exact (Except.ok.inj h).symm
  · split at h
    · cases h
    · exact (Except.ok.inj h).symm

theorem canonicalPlace_eq (tree : FileTree) (cwd : Place) (path : Path) :
    tree.canonicalPlace cwd path =
      if path.text.contains '\x00' then .error .embeddedNul
      else tree.settle
        (tree.resolveFrom tree.entries.length [] (start cwd path) path.parts) := rfl

theorem canonicalPlace_eq_ok {tree : FileTree} {cwd place : Place} {path : Path} :
    tree.canonicalPlace cwd path = .ok place ↔
      path.text.contains '\x00' = false ∧
        tree.settle (tree.resolveFrom tree.entries.length [] (start cwd path) path.parts) =
          .ok place := by
  rw [canonicalPlace_eq]
  cases path.text.contains '\x00' <;> simp

theorem canonicalPlace_of_placeOf {tree : FileTree} {cwd place : Place} {path : Path}
    (plain : Path.dot ∉ path.parts) (h : tree.placeOf cwd true path = .ok place) :
    tree.canonicalPlace cwd path = .ok place := by
  rw [canonicalPlace_eq_ok, resolveFrom_of_placeOf plain h]
  exact ⟨(placeOf_eq_ok h).1, rfl⟩

/-- What is so of a place and of the names appended to it is so of the place they lead to. -/
theorem forall_climb {holds : Name → Prop} {place : Place} {names : List Name}
    (onPlace : ∀ name ∈ place, holds name)
    (onNames : ∀ name ∈ names, name ≠ Path.dotDot → holds name) :
    ∀ name ∈ climb place names, holds name := by
  induction names generalizing place with
  | nil => exact onPlace
  | cons name rest ih =>
    have onRest : ∀ other ∈ rest, other ≠ Path.dotDot → holds other :=
      fun other ho => onNames other (List.mem_cons_of_mem _ ho)
    rw [climb, List.foldl_cons]
    split
    · exact ih (fun other ho => onPlace other ((List.dropLast_prefix place).subset ho)) onRest
    · rename_i hup
      refine ih (fun other ho => ?_) onRest
      rcases List.mem_append.1 ho with ho | ho
      · exact onPlace other ho
      · rw [List.mem_singleton.1 ho]
        exact onNames name List.mem_cons_self hup

/-- **What is so of all names on the way is so of the place that is reached**: of those to begin
with, of those to be followed and of those in the targets of links, `..` left out. -/
theorem forall_resolveFrom {tree : FileTree} {holds : Name → Prop}
    (onTargets : ∀ place target, tree.linkTarget? place = some target →
      ∀ name ∈ Path.partsOf target, name ≠ Path.dotDot → holds name)
    {depth : Nat} {following : List Place} {here : Place} {names : List Name}
    (onPlace : ∀ name ∈ here, holds name)
    (onNames : ∀ name ∈ names, name ≠ Path.dotDot → holds name) :
    ∀ name ∈ (tree.resolveFrom depth following here names).place, holds name := by
  have onward : ∀ {name : Name} {rest : List Name},
      (∀ other ∈ name :: rest, other ≠ Path.dotDot → holds other) →
        ∀ other ∈ rest, other ≠ Path.dotDot → holds other :=
    fun h other ho => h other (List.mem_cons_of_mem _ ho)
  have child : ∀ {here : Place} {name : Name} {rest : List Name}, (∀ other ∈ here, holds other) →
      name ≠ Path.dotDot → (∀ other ∈ name :: rest, other ≠ Path.dotDot → holds other) →
        ∀ other ∈ here ++ [name], holds other := by
    intro here name rest onHere hup h other ho
    rcases List.mem_append.1 ho with ho | ho
    · exact onHere other ho
    · rw [List.mem_singleton.1 ho]
      exact h name List.mem_cons_self hup
  have base : ∀ {here : Place} (target : Text), (∀ other ∈ here, holds other) →
      ∀ other ∈ targetBase target here, holds other := by
    intro here target onHere
    rw [targetBase]
    split
    · exact onHere
    · intro other ho
      exact absurd ho List.not_mem_nil
  fun_induction resolveFrom tree depth following here names with
  | case1 => exact onPlace
  | case2 depth following here rest ih =>
    exact ih (fun other ho => onPlace other ((List.dropLast_prefix here).subset ho))
      (onward onNames)
  | case3 depth following here name rest hup next _ ih =>
    exact ih (child onPlace hup onNames) (onward onNames)
  | case4 depth following here name rest hup next target _ _ =>
    exact forall_climb (child onPlace hup onNames) (onward onNames)
  | case5 following here name rest hup next target _ _ =>
    exact forall_climb (child onPlace hup onNames) (onward onNames)
  | case6 following here name rest hup next target hl _ depth reached _ ih _ ih' =>
    exact ih' (ih (base target onPlace) (onTargets _ target hl)) (onward onNames)
  | case7 following here name rest hup next target hl _ depth reached _ ih =>
    exact forall_climb (ih (base target onPlace) (onTargets _ target hl)) (onward onNames)

/-- Resolving names leads to a place whose names lead down. -/
theorem proper_resolveFrom {tree : FileTree} {depth : Nat} {following : List Place} {here : Place}
    {names : List Name} (hp : ∀ name ∈ here, Path.IsProper name) (plain : Path.dot ∉ names) :
    ∀ name ∈ (tree.resolveFrom depth following here names).place, Path.IsProper name := by
  have lead : ∀ {names : List Name}, Path.dot ∉ names →
      ∀ name ∈ names, name ≠ Path.dotDot → Path.IsProper name :=
    fun plain name hm hup => ⟨fun he => plain (he ▸ hm), hup⟩
  exact forall_resolveFrom (fun _ target _ => lead (Path.dot_not_mem_partsOf target)) hp
    (lead plain)

end Reimport.FileTree
