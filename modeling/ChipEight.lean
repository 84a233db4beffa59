import ChipEight.Archive
import ChipEight.Console
import ChipEight.Listing
import ChipEight.Proofs.Atomicity
import ChipEight.Proofs.ControlFlow
import ChipEight.Proofs.Parity
import ChipEight.Proofs.Reachability
import ChipEight.Proofs.Refusal
import ChipEight.Proofs.History
import ChipEight.Proofs.Nesting
import ChipEight.Proofs.Cadence
import ChipEight.Proofs.Agreement
import ChipEight.Proofs.Restart
import ChipEight.Proofs.Waiting
import ChipEight.Proofs.Footprint
import ChipEight.Proofs.Repainting
import ChipEight.Proofs.Independence
import ChipEight.Proofs.Beeping
import ChipEight.Proofs.Standstill
import ChipEight.Proofs.Splitting
import ChipEight.Proofs.Extraction
import ChipEight.Proofs.Arithmetic
import ChipEight.Proofs.Blitting
import ChipEight.Proofs.Logging
import ChipEight.Proofs.ReadBack
import ChipEight.Proofs.Rows
import ChipEight.Proofs.SpriteReads
import ChipEight.Proofs.Transfer
import ChipEight.Proofs.Assembling
import ChipEight.Proofs.Packing
import ChipEight.Proofs.Replacement
import ChipEight.Proofs.Tiling
import ChipEight.Proofs.Replacement
