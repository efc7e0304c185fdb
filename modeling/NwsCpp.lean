import NwsCpp.CliDate
import NwsCpp.CliStation
import NwsCpp.CliTemperature
import NwsCpp.Cf6Latest
import NwsCpp.NbpRender
import NwsCpp.NbpAppend
import NwsCpp.Endpoints
import NwsCpp.CacheCoherence
import NwsCpp.CacheResidency
import NwsCpp.CacheRefinement
import NwsCpp.CoordinateKeys
import NwsCpp.RateBound
import NwsCpp.RateAcquire
import NwsCpp.RateSupply
import NwsCpp.RateArithmetic
import NwsCpp.DoGet
import NwsCpp.PaginationRuns
import NwsCpp.PaginationDelivery
import NwsCpp.PointCoherence
import NwsCpp.RetryRuns
import NwsCpp.RetryDelay
import NwsCpp.BodyLimit
import NwsCpp.HeaderBlocks
import NwsCpp.UnitCoherence
import NwsCpp.RadarStation
import NwsCpp.Alert
import NwsCpp.Observation
import NwsCpp.Forecast
import NwsCpp.Gridpoint
import NwsCpp.Features
import NwsCpp.Records
import NwsCpp.IemCli
import NwsCpp.WireRate
import NwsCpp.CliSafety
import NwsCpp.LineEndings
import NwsCpp.CliCase
import NwsCpp.CliAppend
import NwsCpp.CliProduct
import NwsCpp.RequestTargets
import NwsCpp.NwsClientHttp
