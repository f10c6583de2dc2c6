import MarketConnector.Auth.InputConcatenation
import MarketConnector.Coinbase.Orders
import MarketConnector.Coinbase.RestClient
import MarketConnector.Coinbase.SignedCalls
import MarketConnector.Coinbase.Streaming
import MarketConnector.Ib.Candles
import MarketConnector.Ib.ContractQueries
import MarketConnector.Ib.CountedDispatch
import MarketConnector.Ib.Executions
import MarketConnector.Ib.FanOut
import MarketConnector.Ib.FillHistory
import MarketConnector.Ib.HandleRegistry
import MarketConnector.Ib.IdempotentCancel
import MarketConnector.Ib.Invalidation
import MarketConnector.Ib.LostDisconnect
import MarketConnector.Ib.MarketDataLines
import MarketConnector.Ib.OneAttempt
import MarketConnector.Ib.OrderOptions
import MarketConnector.Ib.OrderVerdicts
import MarketConnector.Ib.PnlRequests
import MarketConnector.Ib.Resubscribing
import MarketConnector.Ib.RouterHistory
import MarketConnector.Ib.SnapshotWaits
import MarketConnector.Ib.TradeIds
import MarketConnector.Ib.TradingAccount
import MarketConnector.Ib.ValidationOverlay
import MarketConnector.Ib.WaitFor
import MarketConnector.Kraken.BatchPlacement
import MarketConnector.Kraken.ContextHandlers
import MarketConnector.Kraken.FrameClassification
import MarketConnector.Kraken.OpenOrderCap
import MarketConnector.Kraken.OrderAges
import MarketConnector.Kraken.OverEstimate
import MarketConnector.Kraken.StartupCleanup
import MarketConnector.Kraken.SymbolMapper
import MarketConnector.RateLimits.EndpointBuckets
import MarketConnector.RateLimits.KeyedLimits
import MarketConnector.RateLimits.PoolBudgets
import MarketConnector.Symbols.RoundTrip
import MarketConnector.Transport.ChargeDiscipline
import MarketConnector.Transport.Retries
import MarketConnector.Wire.OrderFields
import MarketConnector.Ws.FinalDisconnect
import MarketConnector.Ws.ListenProgress
import MarketConnector.Ws.LoginTemplates
import MarketConnector.Ws.ReconnectDelays
import MarketConnector.Ws.TokenFrames
