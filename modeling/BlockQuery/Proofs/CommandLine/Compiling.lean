import BlockQuery.CommandLine.Run
import BlockQuery.Proofs.Calendar.Relative
import BlockQuery.Proofs.Query.Emptiness

/-!
# The command that compiles

The command line can be asked for the query of some blocks. It refuses a query that is empty, and
behind any other it prints the address of the results, if there is one. **There always is one:** a
query is empty exactly if no block has a fragment, and exactly if there is no address for it
(`searchLink?_compile_eq_none_iff`). So whoever reads the output finds a query and an address, or
nothing.
-/

namespace BlockQuery

namespace Command

variable {w : World} {file : Option String} {mode : SearchMode} {base : String}
  {places : Json.Places}

/-- The query of proposals once they are taken in. -/
def takenQuery (w : World) (ps : List Proposal) : String :=
  Registry.builtin.compile (Registry.builtin.intake w.ids w.today ps)

/-- What can come of asking for the query of blocks. -/
inductive Compiled (w : World) (file : Option String) (mode : SearchMode) (base : String)
    (places : Json.Places) : CommandOutcome → Prop where
  /-- The text of the blocks could not be had, or not be understood. -/
  | unread (problem : String) (hread : readProposals w file places = .error problem) :
      Compiled w file mode base places ⟨1, [], some s!"Error: {problem}\n"⟩
  /-- No block has a fragment. -/
  | nothing (ps : List Proposal) (hread : readProposals w file places = .ok ps)
      (hsilent : ∀ b ∈ Registry.builtin.intake w.ids w.today ps, b.fragment? = none) :
      Compiled w file mode base places ⟨1, [], some "Error: blocks compile to an empty query\n"⟩
  /-- A query and its link are printed. -/
  | shown (ps : List Proposal) (hread : readProposals w file places = .ok ps) (link : String)
      (hquery : takenQuery w ps ≠ "")
      (hlink : searchLink? base (takenQuery w ps) mode = some link) :
      Compiled w file mode base places ⟨0, [takenQuery w ps, link], none⟩

/-- What is printed for blocks that could be read. -/
theorem compiled_of_read {ps : List Proposal} (hread : readProposals w file places = .ok ps) :
    compiled w file mode base places =
      if (takenQuery w ps).isEmpty then .error "blocks compile to an empty query"
      else .ok (takenQuery w ps :: (searchLink? base (takenQuery w ps) mode).toList) := by
  rw [compiled, hread, takenQuery]
  simp only [bind, Except.bind, pure, Except.pure]

/-- **Asking for a query takes one of three courses.** -/
theorem compiled_run (w : World) (file : Option String) (mode : SearchMode) (base : String)
    (places : Json.Places) :
    Compiled w file mode base places (run w (.compile file mode base) places) := by
  rw [run]
  cases hread : readProposals w file places with
  | error problem =>
    rw [compiled, hread]
    exact .unread problem hread
  | ok ps =>
    rw [compiled_of_read hread]
    split
    · next hempty =>
      exact .nothing ps hread (Registry.compile_eq_empty_iff _ |>.1 (String.isEmpty_iff.1 hempty))
    · next hempty =>
      have hquery : takenQuery w ps ≠ "" := String.isEmpty_iff.not.1 hempty
      have hsome : searchLink? base (takenQuery w ps) mode ≠ none := by
        rw [takenQuery, Ne, Registry.searchLink?_compile_eq_none_iff,
          ← Registry.compile_eq_empty_iff]
        exact hquery
      obtain ⟨link, hlink⟩ := Option.ne_none_iff_exists'.1 hsome
      rw [hlink]
      exact .shown ps hread link hquery hlink

/-- **All notions of an empty query agree.** For any registry, blocks, base address and mode, the
text of the query is empty, both its halves are, or there is no link to it, exactly if no block has
a fragment. So the command that compiles fails if it cannot read the blocks or none of them has a
fragment, and then prints nothing; otherwise it prints a query that is not empty and the link to
it. -/
theorem emptiness_agrees (r : Registry) (bs : List Block) (base : String) (mode : SearchMode) :
    ((r.compile bs = "" ↔ ∀ b ∈ bs, b.fragment? = none) ∧
      ((r.query bs).isEmpty = true ↔ ∀ b ∈ bs, b.fragment? = none) ∧
      (searchLink? base (r.compile bs) mode = none ↔ ∀ b ∈ bs, b.fragment? = none)) ∧
      ∀ (w : World) (file : Option String) (places : Json.Places),
        Compiled w file mode base places (run w (.compile file mode base) places) ∧
          ((run w (.compile file mode base) places).code = 0 →
            ∃ query link, (run w (.compile file mode base) places).printed = [query, link] ∧
              query ≠ "" ∧ searchLink? base query mode = some link) := by
  refine ⟨⟨r.compile_eq_empty_iff, Registry.isEmpty_query_iff,
    Registry.searchLink?_compile_eq_none_iff⟩, fun w file places ↦ ?_⟩
  have hcourse := compiled_run w file mode base places
  refine ⟨hcourse, fun hdone ↦ ?_⟩
  generalize run w (.compile file mode base) places = outcome at hcourse hdone
  cases hcourse with
  | unread | nothing => cases hdone
  | shown ps hread link hquery hlink => exact ⟨_, link, rfl, hquery, hlink⟩

/-- A world in which nothing is set, there are no files and nothing is reached, so that only its
input counts. -/
def bareWorld (input : String) : World where
  lookup _ := none
  input := input
  fileText _ := .error "No such file or directory (os error 2)"
  today := Day.first
  timestamp := ""
  ids _ := ⟨0⟩
  network := Http.unreachable

/-- One block with an account as its value is enough for a query and a link to be printed. -/
theorem emptiness_agrees_from :
    (run (bareWorld "[\x7b\"type\":\"from\",\"value\":\"nasa\"\x7d]")
      (.compile none .latest "https://x.com")).code = 0 ∧
      ∃ query link, (run (bareWorld "[\x7b\"type\":\"from\",\"value\":\"nasa\"\x7d]")
        (.compile none .latest "https://x.com")).printed = [query, link] ∧
        query ≠ "" ∧ searchLink? "https://x.com" query .latest = some link :=
  have hdone : (run (bareWorld "[\x7b\"type\":\"from\",\"value\":\"nasa\"\x7d]")
      (.compile none .latest "https://x.com")).code = 0 := by decide +kernel
  ⟨hdone, ((emptiness_agrees Registry.builtin [] "https://x.com" .latest).2 _ none _).2 hdone⟩

end Command

end BlockQuery
