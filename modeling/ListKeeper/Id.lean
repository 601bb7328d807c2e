import ListKeeper.Text.Decimal

namespace ListKeeper

/-- Lists, items and users each have a type of number of their own, so that none stands where
another is wanted. -/
structure ListId where
  number : Int32
  deriving DecidableEq, Inhabited

structure ItemId where
  number : Int32
  deriving DecidableEq, Inhabited

structure UserId where
  number : Int32
  deriving DecidableEq, Inhabited

instance : Ord ListId := ⟨fun a b => compare a.number b.number⟩
instance : Ord ItemId := ⟨fun a b => compare a.number b.number⟩
instance : Ord UserId := ⟨fun a b => compare a.number b.number⟩

instance : Std.TransOrd ListId where
  eq_swap {a b} := Std.OrientedOrd.eq_swap (a := a.number) (b := b.number)
  isLE_trans {a b c} := Std.TransOrd.isLE_trans (a := a.number) (b := b.number) (c := c.number)

instance : Std.LawfulEqOrd ListId where
  eq_of_compare {a b} same := by
    cases a; cases b
    exact congrArg ListId.mk (Std.LawfulEqOrd.eq_of_compare same)
  compare_self {a} := Std.ReflOrd.compare_self (a := a.number)

def ListId.text (id : ListId) : String :=
  Decimal.ofInt32 id.number

def ItemId.text (id : ItemId) : String :=
  Decimal.ofInt32 id.number

def UserId.text (id : UserId) : String :=
  Decimal.ofInt32 id.number

/-- The next number, staying at the largest one. -/
def saturatingNext (n : Int32) : Int32 :=
  if n = Int32.maxValue then n else n + 1

end ListKeeper
