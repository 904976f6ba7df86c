import OutlineNav.Fold
import OutlineNav.Index

/-!
# Providers

Where the symbols and folding ranges of documents come from, as operations of some monad.
-/

namespace OutlineNav

structure Provider (m : Type → Type) where
  symbols : Document → m Answer
  folds : Document → m (Except ServiceError (List FoldRange))
  /-- The document is no longer in use. -/
  close : Document → m Unit
  /-- Nothing more will be asked. -/
  shutdown : m Unit

end OutlineNav
