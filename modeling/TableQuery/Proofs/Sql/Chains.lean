import TableQuery.Proofs.Query.Verdicts
import TableQuery.Proofs.Sql.Conditions

/-!
# Conditions without parentheses

A condition without parentheses is a chain of comparisons with AND or OR between neighbours. The
chain is cut at each OR into runs of comparisons that AND connects (`mem_runs`). Its tree has the
same comparisons in the same order (`comparisons_condition`) and holds when all comparisons of one
run hold (`verdict_condition`).
-/

namespace TableQuery

namespace Sql

/-! ## Chains -/

/-- One spelling of a comparison. -/
structure Spelling where
  comparison : Comparison
  tokens : List Token
  spelled : comparison.SpelledBy tokens

/-- A comparison behind a connective, whose keyword may be in any case. -/
structure Link extends Spelling where
  connective : Connective
  keyword : Token
  isKeyword : keyword.isKeyword connective.word = true

/-- Whether a link goes on with the run in front of it. -/
def Link.continuesRun (link : Link) : Bool :=
  match link.connective with
  | .and => true
  | .or => false

/-- Comparisons with connectives between them. -/
structure Chain where
  first : Spelling
  links : List Link

namespace Chain

/-- A chain as tokens. -/
def tokens (chain : Chain) : List Token :=
  chain.first.tokens ++ chain.links.flatMap fun link => link.keyword :: link.tokens

/-- The comparisons of a chain in the order written. -/
def comparisons (chain : Chain) : List Comparison :=
  chain.first.comparison :: chain.links.map fun link => link.comparison

/-- The links up to the next OR. -/
def upToOr (links : List Link) : List Link := links.takeWhile Link.continuesRun

/-- The comparisons of a run: one that it starts with, and those up to the next OR. -/
def runFrom (first : Spelling) (links : List Link) : List Comparison :=
  first.comparison :: (upToOr links).map fun link => link.comparison

/-- The longest stretches of comparisons that AND connects: one starts at the beginning of the
chain and one behind each OR. -/
inductive IsRun (chain : Chain) : List Comparison → Prop where
  | first : chain.IsRun (runFrom chain.first chain.links)
  | behindOr {before after : List Link} {link : Link}
      (hlinks : chain.links = before ++ link :: after) (hor : link.connective = .or) :
      chain.IsRun (runFrom link.toSpelling after)

/-- The comparisons of a run are among those of the chain. -/
lemma IsRun.subset {chain : Chain} {run : List Comparison} (h : chain.IsRun run) :
    run ⊆ chain.comparisons := by
  cases h with
  | first =>
    exact List.cons_subset_cons _ (List.map_subset _ (List.takeWhile_sublist _).subset)
  | @behindOr before after link hlinks hor =>
    have hafter : upToOr after ⊆ after := (List.takeWhile_sublist _).subset
    intro comparison hmem
    rw [comparisons, hlinks]
    apply List.mem_cons_of_mem
    rw [List.map_append, List.map_cons]
    apply List.mem_append_right
    rcases List.mem_cons.mp hmem with rfl | hmem
    · exact List.mem_cons_self
    · exact List.mem_cons_of_mem _ (List.map_subset _ hafter hmem)

/-! ## Cutting a chain at its OR -/

/-- Each link with OR, and the links up to the next one. -/
def openings : List Link → List (Link × List Link)
  | [] => []
  | link :: links =>
    if link.continuesRun then openings links else (link, upToOr links) :: openings links

variable {link : Link} {links : List Link}

/-- A run ends at an OR. -/
lemma continuesRun_eq_false : link.continuesRun = false ↔ link.connective = .or := by
  cases hconnective : link.connective <;> simp [Link.continuesRun, hconnective]

/-- A run goes on behind an AND. -/
lemma continuesRun_eq_true : link.continuesRun = true ↔ link.connective = .and := by
  cases hconnective : link.connective <;> simp [Link.continuesRun, hconnective]

/-- Up to the next OR there are links with AND only. -/
lemma connective_of_mem_upToOr (h : link ∈ upToOr links) : link.connective = .and :=
  continuesRun_eq_true.mp (List.all_eq_true.mp List.all_takeWhile link h)

/-- The links are those up to the first OR and then those from each OR on. -/
lemma flatMap_openings {γ : Type} (f : Link → List γ) (links : List Link) :
    links.flatMap f =
      (upToOr links).flatMap f ++
        (openings links).flatMap fun (link, links) => f link ++ links.flatMap f := by
  induction links with
  | nil => rfl
  | cons link links ih =>
    cases hrun : link.continuesRun with
    | true => simp [upToOr, openings, hrun, ih]
    | false => simp [upToOr, openings, hrun, ih]

/-- A link with OR opens a run of its own in front of those behind it. -/
lemma mem_openings_cons {opening : Link × List Link} :
    opening ∈ openings (link :: links) ↔
      link.connective = .or ∧ opening = (link, upToOr links) ∨ opening ∈ openings links := by
  rw [openings, ← continuesRun_eq_false]
  cases hrun : link.continuesRun with
  | true => simp
  | false => simp

/-- The chain is cut at exactly the links with OR. -/
lemma mem_openings {opening : Link × List Link} :
    opening ∈ openings links ↔
      ∃ before after, links = before ++ opening.1 :: after ∧ opening.1.connective = .or ∧
        opening.2 = upToOr after := by
  induction links with
  | nil => simp [openings]
  | cons link links ih =>
    rw [mem_openings_cons, ih]
    constructor
    · rintro (⟨hor, rfl⟩ | ⟨before, after, rfl, hor, hrun⟩)
      · exact ⟨[], links, rfl, hor, rfl⟩
      · exact ⟨link :: before, after, rfl, hor, hrun⟩
    · rintro ⟨before, after, hlinks, hor, hrun⟩
      cases before with
      | nil =>
        obtain ⟨rfl, rfl⟩ := List.cons.inj hlinks
        exact .inl ⟨hor, Prod.ext rfl hrun⟩
      | cons _ before =>
        obtain ⟨rfl, rfl⟩ := List.cons.inj hlinks
        exact .inr ⟨before, after, rfl, hor, hrun⟩

variable (chain : Chain)

/-- All runs of a chain, in order. -/
def runs : List (List Comparison) :=
  runFrom chain.first chain.links ::
    (openings chain.links).map fun (link, links) =>
      link.comparison :: links.map fun link => link.comparison

/-- The runs that are computed are the longest stretches that AND connects. -/
lemma mem_runs {chain : Chain} {run : List Comparison} : run ∈ chain.runs ↔ chain.IsRun run := by
  rw [runs, List.mem_cons]
  constructor
  · rintro (rfl | h)
    · exact .first
    · obtain ⟨⟨link, links⟩, hopening, rfl⟩ := List.mem_map.mp h
      obtain ⟨before, after, hlinks, hor, rfl⟩ := mem_openings.mp hopening
      exact .behindOr hlinks hor
  · rintro (_ | @⟨before, after, link, hlinks, hor⟩)
    · exact .inl rfl
    · have hopening : (link, upToOr after) ∈ openings chain.links :=
        mem_openings.mpr ⟨before, after, hlinks, hor, rfl⟩
      exact .inr (List.mem_map_of_mem hopening)

/-! ## The tree of a chain -/

/-- A run as a tree. -/
def conjunction (first : Spelling) (links : List Link) : Condition :=
  (links.map fun link => .compare link.comparison).foldl .and (.compare first.comparison)

/-- A chain as a tree. -/
def condition : Condition :=
  ((openings chain.links).map fun (link, links) => conjunction link.toSpelling links).foldl .or
    (conjunction chain.first (upToOr chain.links))

end Chain

end Sql

/-- The comparisons of operands that are joined from the left are those of the operands in order. -/
lemma Connective.comparisons_foldl (connective : Connective) (first : Condition)
    (operands : List Condition) :
    (operands.foldl connective.build first).comparisons =
      first.comparisons ++ operands.flatMap Condition.comparisons := by
  induction operands generalizing first with
  | nil => simp
  | cons second operands ih =>
    rw [List.foldl_cons, ih, List.flatMap_cons, ← List.append_assoc]
    cases connective <;> rfl

namespace Sql.Chain

/-- The tree of a run has its comparisons in their order. -/
lemma comparisons_conjunction (first : Spelling) (links : List Link) :
    (conjunction first links).comparisons =
      first.comparison :: links.map fun link => link.comparison := by
  refine (Connective.and.comparisons_foldl _ _).trans ?_
  rw [List.flatMap_map]
  exact congrArg (first.comparison :: ·) List.map_eq_flatMap.symm

variable (chain : Chain)

/-- The tree of a chain has the comparisons of the chain in their order. -/
lemma comparisons_condition : chain.condition.comparisons = chain.comparisons := by
  refine (Connective.or.comparisons_foldl _ _).trans ?_
  have hlinks := flatMap_openings (fun link => [link.comparison]) chain.links
  simp only [← List.map_eq_flatMap, List.singleton_append] at hlinks
  rw [comparisons_conjunction, List.flatMap_map, comparisons, hlinks]
  simp only [comparisons_conjunction]
  rfl

/-- The verdict of a run is that all its comparisons hold. -/
lemma verdict_conjunction (judge : Comparison → Bool) (first : Spelling) (links : List Link) :
    (conjunction first links).verdict judge =
      (first.comparison :: links.map fun link => link.comparison).all judge := by
  rw [conjunction, Condition.verdict_foldl_and]
  simp [Condition.verdict, Function.comp_def]

/-- The verdict of a chain is that all comparisons of one of its runs hold. -/
lemma verdict_condition (judge : Comparison → Bool) :
    chain.condition.verdict judge = chain.runs.any fun run => run.all judge := by
  rw [condition, Condition.verdict_foldl_or, runs, List.any_cons, List.any_cons, List.any_map,
    List.any_map, verdict_conjunction]
  simp only [Function.comp_def, verdict_conjunction]
  rfl

end Sql.Chain

end TableQuery
