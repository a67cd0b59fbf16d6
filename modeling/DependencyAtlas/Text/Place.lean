
namespace DependencyAtlas.Text

structure Place where
  line : Nat
  column : Nat
  offset : Nat
  deriving Repr, DecidableEq

def Place.after (before : List Char) : Place where
  line := before.count '\n' + 1
  column := (before.reverse.takeWhile (· != '\n')).length + 1
  offset := before.length

def Place.ofRest (whole rest : List Char) : Place :=
  .after (whole.take (whole.length - rest.length))

end DependencyAtlas.Text
