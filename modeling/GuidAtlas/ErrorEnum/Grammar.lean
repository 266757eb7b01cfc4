import GuidAtlas.ErrorEnum.Statement

/-!
The grammar of types, expressions and patterns, each of which may stand inside of the others. What
is nested deeper is read by readers of a lower level; each token is passed by two levels at most.
-/

namespace GuidAtlas.ErrorEnum

/-- The readers for what is nested less than `depth` times. -/
def innerAt : (depth : Nat) → Inner
  | 0 =>
    { type := fun _ => failure
      angle := failure
      operation := fun _ _ => failure
      body := failure
      block := fun _ => failure
      pattern := failure
      alternatives := failure }
  | depth + 1 =>
    let inner := innerAt depth
    { type := Reader.type inner
      angle := Reader.angle inner
      operation := Reader.operation inner
      body := Reader.body inner
      block := Reader.block inner
      pattern := Reader.pattern inner
      alternatives := Reader.alternatives inner }

/-- The readers for all that can stand in as many tokens. -/
def innerFor (tokens : Tokens) : Inner := innerAt (2 * countOf tokens + 4)

end GuidAtlas.ErrorEnum
