import Phrasebook.Data.Reading
import Phrasebook.Main
import Phrasebook.Proofs.Message.Retranslation
import Phrasebook.Proofs.Template.Joining
import Phrasebook.Proofs.Template.Renaming
import Phrasebook.Proofs.CommandLine
import Phrasebook.Proofs.Entity.Shrinking
import Phrasebook.Proofs.Entity.Seam
import Phrasebook.Proofs.Name.Search
import Phrasebook.Proofs.Name.Fixed
import Phrasebook.Proofs.Message.Faults
import Phrasebook.Proofs.Message.Rearranging
import Phrasebook.Proofs.Service.Frame
import Phrasebook.Proofs.Service.Pinned
import Phrasebook.Proofs.Arguments
import Phrasebook.Proofs.Settings.Sources
