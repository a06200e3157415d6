/-! # The budget

How many items a run may discover, and how many it has. -/

namespace CatalogCrawl

structure Budget where
  limit : Nat
  crawled : Nat := 0
  deriving DecidableEq, Repr

namespace Budget

def remaining (b : Budget) : Nat := b.limit - b.crawled

def exhausted (b : Budget) : Bool := b.remaining = 0

/-- The budget after `n` discoveries. -/
def spend (b : Budget) (n : Nat) : Budget := { b with crawled := b.crawled + n }

@[simp] theorem limit_spend (b : Budget) (n : Nat) : (b.spend n).limit = b.limit := rfl

@[simp] theorem crawled_spend (b : Budget) (n : Nat) : (b.spend n).crawled = b.crawled + n := rfl

theorem exhausted_iff {b : Budget} : b.exhausted = true ↔ b.limit ≤ b.crawled := by
  simp [exhausted, remaining, Nat.sub_eq_zero_iff_le]

end Budget

end CatalogCrawl
