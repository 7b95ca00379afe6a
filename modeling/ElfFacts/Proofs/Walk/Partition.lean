import ElfFacts.Generator.Documents
import ElfFacts.Proofs.Walk.Once

/-!
# Walks of different binaries do not interfere

Walkers of several binaries take turns on one `Ledgers`. Each of them takes up the ledger of its own
binary and leaves it behind, so what it reports, and the ledger that its binary ends with, are what
they would be if no other binary had been walked. Two runs are compared that agree about the ledger
of one binary: a turn of this binary keeps them in step, and a turn of another one may be left out
on one side.
-/
namespace ElfFacts

/-- A walker is made for a binary and does some walks, one after the other. -/
structure Turn (ι : Type) where
  corpus : ι
  walks : List WalkCall

namespace Ledgers

/-- What a walker of the binary reports, and the ledgers after it. -/
def turn (ls : Ledgers) (b : Corpus) (walks : List WalkCall) : WalkState × Ledgers :=
  let s := b.calls (ls.ledger b.path) walks
  (s, ls.put b.path s.ledger)

variable {ι : Type} (corpora : ι → Corpus)

def turns : Ledgers → List (Turn ι) → List (ι × WalkState)
  | _, [] => []
  | ls, t :: rest =>
    let r := ls.turn (corpora t.corpus) t.walks
    (t.corpus, r.1) :: turns r.2 rest

def after (ls : Ledgers) (ts : List (Turn ι)) : Ledgers :=
  ts.foldl (fun ls t => (ls.turn (corpora t.corpus) t.walks).2) ls

variable {ls ls' : Ledgers} {b : Corpus} {walks : List WalkCall}

theorem turn_congr (h : ls.ledger? b.path = ls'.ledger? b.path) :
    (ls.turn b walks).1 = (ls'.turn b walks).1 := by
  simp only [turn, ledger, h]

theorem ledger?_turn_self :
    (ls.turn b walks).2.ledger? b.path = some (ls.turn b walks).1.ledger := by
  rw [turn, ledger?_put, if_pos rfl]

theorem ledger?_turn_of_not_same {p : Path} (h : b.path.same p = false) :
    (ls.turn b walks).2.ledger? p = ls.ledger? p := by
  rw [turn, ledger?_put, if_neg (by simpa [Path.same] using h)]

variable {corpora}

/-- Ledgers that agree about one binary before all turns and before the turns of this binary alone
give it the same reports, and agree about it afterwards. -/
theorem turns_own [DecidableEq ι]
    (hdiff : ∀ i j, i ≠ j → (corpora i).path.same (corpora j).path = false)
    (ts : List (Turn ι)) (i : ι)
    (h : ls.ledger? (corpora i).path = ls'.ledger? (corpora i).path) :
    (turns corpora ls ts).filter (·.1 = i) = turns corpora ls' (ts.filter (·.corpus = i)) ∧
      (after corpora ls ts).ledger? (corpora i).path =
        (after corpora ls' (ts.filter (·.corpus = i))).ledger? (corpora i).path := by
  induction ts generalizing ls ls' with
  | nil => exact ⟨rfl, h⟩
  | cons t ts ih =>
    by_cases hi : t.corpus = i
    · subst hi
      have hreport : (ls.turn (corpora t.corpus) t.walks).1 =
          (ls'.turn (corpora t.corpus) t.walks).1 := turn_congr h
      have hnext : (ls.turn (corpora t.corpus) t.walks).2.ledger? (corpora t.corpus).path =
          (ls'.turn (corpora t.corpus) t.walks).2.ledger? (corpora t.corpus).path := by
        rw [ledger?_turn_self, ledger?_turn_self, hreport]
      obtain ⟨hreports, hledger⟩ := ih hnext
      rw [List.filter_cons_of_pos (by simp), turns, turns, List.filter_cons_of_pos (by simp)]
      exact ⟨by rw [hreport, hreports], hledger⟩
    · have hnext : (ls.turn (corpora t.corpus) t.walks).2.ledger? (corpora i).path =
          ls'.ledger? (corpora i).path := by
        rw [ledger?_turn_of_not_same (hdiff _ _ hi), h]
      obtain ⟨hreports, hledger⟩ := ih hnext
      rw [List.filter_cons_of_neg (by simpa using hi), turns,
        List.filter_cons_of_neg (by simpa using hi)]
      exact ⟨hreports, hledger⟩

end Ledgers

namespace Corpus

/-- Whatever is walked in whatever order, the turns of one binary report the same, and leave the
same ledger, as if they were the only ones. -/
theorem turns_independent {ι : Type} [DecidableEq ι] (corpora : ι → Corpus)
    (hdiff : ∀ i j, i ≠ j → (corpora i).path.same (corpora j).path = false)
    (ts : List (Turn ι)) (i : ι) :
    (Ledgers.turns corpora {} ts).filter (·.1 = i) =
        Ledgers.turns corpora {} (ts.filter (·.corpus = i)) ∧
      (Ledgers.after corpora {} ts).ledger? (corpora i).path =
        (Ledgers.after corpora {} (ts.filter (·.corpus = i))).ledger? (corpora i).path :=
  Ledgers.turns_own hdiff ts i rfl

def twinsAt (second : Bool) : Corpus :=
  if second then { twins with path := Path.ofString "/b" } else twins

/-- Both binaries are walked twice, in turns, and the second once more below an entry. -/
theorem turns_independent_twins :
    (Ledgers.turns twinsAt {} [⟨false, [.whole everything]⟩, ⟨true, [.below everything 0 3 none]⟩,
        ⟨false, [.whole everything]⟩, ⟨true, [.whole everything]⟩]).filter (·.1 = true) =
      Ledgers.turns twinsAt {} [⟨true, [.below everything 0 3 none]⟩,
        ⟨true, [.whole everything]⟩] := by
  have hdiff : ∀ i j, i ≠ j → (twinsAt i).path.same (twinsAt j).path = false := by decide
  exact (turns_independent twinsAt hdiff _ true).1

end Corpus

end ElfFacts
