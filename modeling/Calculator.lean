import Calculator.CommandLine
import Calculator.Log
import Calculator.Main
import Calculator.Proofs.Agreement
import Calculator.Proofs.ExactValue
import Calculator.Proofs.Holes
import Calculator.Proofs.NodeText
import Calculator.Proofs.Partition
import Calculator.Proofs.Printing
import Calculator.Proofs.ViablePrefix
import Calculator.Proofs.Nesting
import Calculator.Proofs.ErrorOrder
import Calculator.Proofs.Layout
import Calculator.Proofs.Listing
import Calculator.Proofs.Isolation
import Calculator.Proofs.Memory
import Calculator.Proofs.Dialogue
import Calculator.Proofs.Rendering
import Calculator.Proofs.Intake
import Calculator.Proofs.Recovery
import Calculator.Proofs.Pointing
import Calculator.Proofs.Prompting
import Calculator.Proofs.Pulling
import Calculator.Proofs.Truncation
import Calculator.Proofs.Exchanges
import Calculator.Proofs.Excerpts
import Calculator.Proofs.Grouping
import Calculator.Proofs.Seams
import Calculator.Proofs.Usage
