import Phrasebook.Main
import Phrasebook.Proofs.Block.Sections
import Phrasebook.Proofs.Block.Splitters
import Phrasebook.Proofs.Block.Written
import Phrasebook.Proofs.Catalog.Coverage
import Phrasebook.Proofs.Catalog.Lookup
import Phrasebook.Proofs.Clause.Unknown
import Phrasebook.Proofs.Command.Eval
import Phrasebook.Proofs.Command.Typed
import Phrasebook.Proofs.Diagnostic.Offset
import Phrasebook.Proofs.Expansion.Outline
import Phrasebook.Proofs.Expansion.Substitution
import Phrasebook.Proofs.Expansion.Unset
import Phrasebook.Proofs.Lint.Spans
import Phrasebook.Proofs.Modifier.Integer
import Phrasebook.Proofs.Request.Spelling
import Phrasebook.Proofs.Shared.Snapshot
import Phrasebook.Proofs.Suggestion.Closest
