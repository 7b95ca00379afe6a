import ElfFacts.Files.Disk

/-!
# Looking without touching

Much of what a command does only looks at the file tree. `Still` is kept by everything that is put
together from such steps.
-/
namespace ElfFacts.Disk

variable {α β : Type}

@[simp] theorem map_apply (f : α → β) (x : Disk α) (t : FileTree) :
    (f <$> x) t = (f (x t).1, (x t).2) := rfl

def Still (x : Disk α) : Prop := ∀ t, (x t).2 = t

namespace Still

theorem pure (a : α) : Still (Pure.pure a) := fun _ => rfl

theorem bind {x : Disk α} {f : α → Disk β} (hx : Still x) (hf : ∀ a, Still (f a)) :
    Still (x >>= f) := fun t => (hf _ _).trans (hx t)

theorem mapM {f : α → Disk β} (hf : ∀ a, Still (f a)) (xs : List α) : Still (xs.mapM f) := by
  induction xs with
  | nil =>
    rw [List.mapM_nil]
    exact pure []
  | cons x xs ih =>
    rw [List.mapM_cons]
    exact (hf x).bind fun b => ih.bind fun bs => pure (b :: bs)

theorem currentDirectory : Still Host.currentDirectory := fun _ => rfl

theorem canonical (p : Path) : Still (Host.canonical p) := fun _ => rfl

theorem read (p : Path) : Still (Host.read p) := fun _ => rfl

theorem now : Still Host.now := fun _ => rfl

theorem apply_eq {x : Disk α} (hx : Still x) (t : FileTree) : x t = ((x t).1, t) :=
  Prod.ext rfl (hx t)

end Still

end ElfFacts.Disk
