import SixthEdition.Description.Writer
import SixthEdition.Main
import SixthEdition.Proofs.ArgumentLayout
import SixthEdition.Proofs.BuildFaults
import SixthEdition.Proofs.Building
import SixthEdition.Proofs.CommandRecovery
import SixthEdition.Proofs.CoreLayout
import SixthEdition.Proofs.DelimiterCount
import SixthEdition.Proofs.DescribedCommands
import SixthEdition.Proofs.DeviceCalls
import SixthEdition.Proofs.InputLines
import SixthEdition.Proofs.KernelMemory
import SixthEdition.Proofs.OutputMap
import SixthEdition.Proofs.ProcessWalk
import SixthEdition.Proofs.Reading
import SixthEdition.Proofs.Records
import SixthEdition.Proofs.TerminalRuns
import SixthEdition.Proofs.TableRuns
import SixthEdition.Proofs.Opening
import SixthEdition.Proofs.OpenReads
import SixthEdition.Proofs.QueueCounts
import SixthEdition.Proofs.PrintableListing
import SixthEdition.Proofs.JsonTexts
import SixthEdition.Proofs.JsonValues
import SixthEdition.Proofs.RecordForms
import SixthEdition.Proofs.DescriptionSpellings
import SixthEdition.Proofs.ArgumentRecovery
import SixthEdition.Proofs.RawInput
import SixthEdition.Proofs.OutputOptions
import SixthEdition.Proofs.TabStops
import SixthEdition.Proofs.RecordLayout
import SixthEdition.Proofs.ArgumentWalk
import SixthEdition.Proofs.ForgottenInput
import SixthEdition.Proofs.ImagePages
import SixthEdition.Proofs.Interleaving
import SixthEdition.Proofs.Numerals
import SixthEdition.Proofs.Addresses
import SixthEdition.Proofs.Registrations
import SixthEdition.Proofs.DumpReading
import SixthEdition.Proofs.ListingColumns
