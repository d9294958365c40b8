import DishPlanner.Main
import DishPlanner.Json.Reader
import DishPlanner.Proofs.Dinner.Balance
import DishPlanner.Proofs.Dinner.Frame
import DishPlanner.Proofs.Dinner.Season
import DishPlanner.Proofs.Dinner.Correspondence
import DishPlanner.Proofs.Roll.Choices
import DishPlanner.Proofs.Dinner.Exchange
import DishPlanner.Proofs.Draw.Arrangements
import DishPlanner.Proofs.Kitchen.Fairness
import DishPlanner.Proofs.Dinner.Refusal
import DishPlanner.Proofs.Floor.Rows
import DishPlanner.Proofs.Floor.Drawing
import DishPlanner.Proofs.Floor.Store
import DishPlanner.Proofs.House.Guests
import DishPlanner.Proofs.Inspection
import DishPlanner.Proofs.House.Sweep
import DishPlanner.Proofs.CommandLine.Run
import DishPlanner.Proofs.Floor.Walk
import DishPlanner.Proofs.Kitchen.Account
import DishPlanner.Proofs.Roll.Coins
import DishPlanner.Proofs.Codec.RoundTrip
import DishPlanner.Proofs.Report.Lines
import DishPlanner.Proofs.Dinner.Report
import DishPlanner.Proofs.Floor.Containment
import DishPlanner.Proofs.Dinner.Readiness
import DishPlanner.Proofs.Floor.Patch
import DishPlanner.Proofs.Dinner.Notices
import DishPlanner.Proofs.Floor.Rectangles
import DishPlanner.Proofs.House.Seating
import DishPlanner.Proofs.Dinner.Display
import DishPlanner.Proofs.CommandLine.Map
import DishPlanner.Proofs.Floor.Gaps
import DishPlanner.Proofs.Floor.Survey
import DishPlanner.Proofs.Floor.Page
import DishPlanner.Proofs.Report.Partition
import DishPlanner.Proofs.CommandLine.Groups
import DishPlanner.Proofs.Dinner.Wholeness
import DishPlanner.Proofs.Codec.Arrival
