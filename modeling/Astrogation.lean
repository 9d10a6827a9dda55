import Astrogation.Atlas.Table
import Astrogation.Command.Run
import Astrogation.Main
import Astrogation.Proofs.Chart.Entered
import Astrogation.Proofs.Chart.Names
import Astrogation.Proofs.Chart.Radius
import Astrogation.Proofs.Circuit.Cycle
import Astrogation.Proofs.Document.RoundTrip
import Astrogation.Proofs.Navigator.Described
import Astrogation.Proofs.Navigator.Destination
import Astrogation.Proofs.Navigator.Progress
import Astrogation.Proofs.Navigator.Recalled
import Astrogation.Proofs.Navigator.Requested
import Astrogation.Proofs.Navigator.Restarted
import Astrogation.Proofs.Navigator.Served
import Astrogation.Proofs.Places.Layout
import Astrogation.Proofs.Places.Resolvers
import Astrogation.Proofs.Places.Rotation
import Astrogation.Proofs.Report.Colours
import Astrogation.Proofs.Report.Separators
import Astrogation.Proofs.Resolver.Busiest
import Astrogation.Proofs.Resolver.Comparison
import Astrogation.Proofs.Resolver.Plotted
import Astrogation.Proofs.Resolver.Registered
import Astrogation.Proofs.Resolver.Stations
import Astrogation.Proofs.Resolver.Urgent
import Astrogation.Proofs.Route.Bookkeeping
import Astrogation.Proofs.Route.Offered
import Astrogation.Proofs.Route.Progress
import Astrogation.Proofs.Route.Repeated
