/-!
# Character names: pictographs

The part of the table of character names from U+1F000 to U+10FFFF: pictographs, tags and
selectors.
-/

namespace ClassSchema.Text.CharacterName

/-- The names of pictographs, tags and selectors. -/
def pictographs : List String :=
  ["@1F000aMAHJONG TILE EAST WINDcSOUTH~cWEST~cNORTH~cRED DRAGONcGREEN~cWHITE~cONE OF CHARACTERS",
   "cTWO~~cTHREE~~cFOUR~~cFIVE~~cSIX~~cSEVEN~~cEIGHT~~cNINE~~cONE OF BAMBOOScTWO~~cTHREE~~cFOUR~~",
   "cFIVE~~cSIX~~cSEVEN~~cEIGHT~~cNINE~~cONE OF CIRCLEScTWO~~cTHREE~~cFOUR~~cFIVE~~cSIX~~cSEVEN~~",
   "cEIGHT~~cNINE~~cPLUMcORCHIDcBAMBOOcCHRYSANTHEMUMcSPRINGcSUMMERcAUTUMNcWINTERcJOKERcBACK@1F030",
   "aDOMINO TILE HORIZONTAL~cHORIZONTAL-00-00+6cHORIZONTAL-01-00+6cHORIZONTAL-02-00+6",
   "cHORIZONTAL-03-00+6cHORIZONTAL-04-00+6cHORIZONTAL-05-00+6cHORIZONTAL-06-00+6cVERTICAL BACK",
   "cVERTICAL-00-00+6cVERTICAL-01-00+6cVERTICAL-02-00+6cVERTICAL-03-00+6cVERTICAL-04-00+6",
   "cVERTICAL-05-00+6cVERTICAL-06-00+6@1F0A0aPLAYING CARD BACKcACE OF SPADEScTWO~~cTHREE~~cFOUR~~",
   "cFIVE~~cSIX~~cSEVEN~~cEIGHT~~cNINE~~cTEN~~cJACK~~cKNIGHT~~cQUEEN~~cKING~~@1F0B1cACE OF HEARTS",
   "cTWO~~cTHREE~~cFOUR~~cFIVE~~cSIX~~cSEVEN~~cEIGHT~~cNINE~~cTEN~~cJACK~~cKNIGHT~~cQUEEN~~cKING~~",
   "cRED JOKER@1F0C1cACE OF DIAMONDScTWO~~cTHREE~~cFOUR~~cFIVE~~cSIX~~cSEVEN~~cEIGHT~~cNINE~~",
   "cTEN~~cJACK~~cKNIGHT~~cQUEEN~~cKING~~cBLACK JOKER@1F0D1cACE OF CLUBScTWO~~cTHREE~~cFOUR~~",
   "cFIVE~~cSIX~~cSEVEN~~cEIGHT~~cNINE~~cTEN~~cJACK~~cKNIGHT~~cQUEEN~~cKING~~cWHITE JOKERcFOOL",
   "cTRUMP-1+20@1F100aDIGIT ZERO FULL STOPcCOMMAbONE~bTWO~bTHREE~bFOUR~bFIVE~bSIX~bSEVEN~bEIGHT~",
   "bNINE~aDINGBAT CIRCLED SANS-SERIF DIGIT ZERObNEGATIVE~~~~aCIRCLED ZERO WITH SLASH",
   "bANTICLOCKWISE ARROWbDOLLAR SIGN WITH OVERLAID BACKSLASHaPARENTHESIZED LATIN CAPITAL LETTER A",
   "eBeCeDeEeFeGeHeIeJeKeLeMeNeOePeQeReSeTeUeVeWeXeYeZ",
   "aTORTOISE SHELL BRACKETED LATIN CAPITAL LETTER SaCIRCLED ITALIC LATIN CAPITAL LETTER CfRbCDbWZ",
   "aCOPYLEFT SYMBOLaSQUARED LATIN CAPITAL LETTER AeBeCeDeEeFeGeHeIeJeKeLeMeNeOePeQeReSeTeUeVeWeX",
   "eYeZbHVbMVbSDbSSbPPVbWCaNEGATIVE CIRCLED LATIN CAPITAL LETTER AfBfCfDfEfFfGfHfIfJfKfLfMfNfOfP",
   "fQfRfSfTfUfVfWfXfYfZaRAISED MC SIGNbMD~bMR~aCIRCLED CCbC WITH OVERLAID BACKSLASHbHUMAN FIGURE",
   "aNEGATIVE SQUARED LATIN CAPITAL LETTER AfBfCfDfEfFfGfHfIfJfKfLfMfNfOfPfQfRfSfTfUfVfWfXfYfZ",
   "aCROSSED NEGATIVE SQUARED LATIN CAPITAL LETTER PaNEGATIVE SQUARED ICcPAcSAcABcWCaSQUARE DJ",
   "aSQUARED CLbCOOLbFREEbIDbNEWbNGbOKbSOSbUP WITH EXCLAMATION MARKbVSbTHREE DbSECOND SCREENbTWO K",
   "bFOUR~bEIGHT~bFIVE POINT ONEbSEVEN~~bTWENTY-TWO POINT TWObSIXTY PbONE HUNDRED TWENTY~",
   "bLATIN SMALL LETTER DbHCbHDRbHI-RESbLOSSLESSbSHVbUHDbVODaMASK WORK SYMBOL@1F1E6",
   "aREGIONAL INDICATOR SYMBOL LETTER AeBeCeDeEeFeGeHeIeJeKeLeMeNeOePeQeReSeTeUeVeWeXeYeZ",
   "aSQUARE HIRAGANA HOKAaSQUARED KATAKANA KOKOcSA@1F210bCJK UNIFIED IDEOGRAPH-624BdIDEOGRAPH-5B57",
   "dIDEOGRAPH-53CCbKATAKANA DEbCJK UNIFIED IDEOGRAPH-4E8CdIDEOGRAPH-591AdIDEOGRAPH-89E3",
   "dIDEOGRAPH-5929dIDEOGRAPH-4EA4dIDEOGRAPH-6620dIDEOGRAPH-7121dIDEOGRAPH-6599dIDEOGRAPH-524D",
   "dIDEOGRAPH-5F8CdIDEOGRAPH-518DdIDEOGRAPH-65B0dIDEOGRAPH-521DdIDEOGRAPH-7D42dIDEOGRAPH-751F",
   "dIDEOGRAPH-8CA9dIDEOGRAPH-58F0dIDEOGRAPH-5439dIDEOGRAPH-6F14dIDEOGRAPH-6295dIDEOGRAPH-6355",
   "dIDEOGRAPH-4E00dIDEOGRAPH-4E09dIDEOGRAPH-904AdIDEOGRAPH-5DE6dIDEOGRAPH-4E2DdIDEOGRAPH-53F3",
   "dIDEOGRAPH-6307dIDEOGRAPH-8D70dIDEOGRAPH-6253dIDEOGRAPH-7981dIDEOGRAPH-7A7AdIDEOGRAPH-5408",
   "dIDEOGRAPH-6E80dIDEOGRAPH-6709dIDEOGRAPH-6708dIDEOGRAPH-7533dIDEOGRAPH-5272dIDEOGRAPH-55B6",
   "dIDEOGRAPH-914D@1F240aTORTOISE SHELL BRACKETED CJK UNIFIED IDEOGRAPH-672CfIDEOGRAPH-4E09",
   "fIDEOGRAPH-4E8CfIDEOGRAPH-5B89fIDEOGRAPH-70B9fIDEOGRAPH-6253fIDEOGRAPH-76D7fIDEOGRAPH-52DD",
   "fIDEOGRAPH-6557@1F250aCIRCLED IDEOGRAPH ADVANTAGEcACCEPT@1F260aROUNDED SYMBOL FOR FUdLUdSHOU",
   "dXIdSHUANGXIdCAI@1F300aCYCLONEaFOGGYaCLOSED UMBRELLAaNIGHT WITH STARSaSUNRISE OVER MOUNTAINSb",
   "aCITYSCAPE AT DUSKaSUNSET OVER BUILDINGSaRAINBOWaBRIDGE AT NIGHTaWATER WAVEaVOLCANOaMILKY WAY",
   "aEARTH GLOBE EUROPE-AFRICAcAMERICAScASIA-AUSTRALIAaGLOBE WITH MERIDIANSaNEW MOON SYMBOL",
   "aWAXING CRESCENT~~aFIRST QUARTER~~aWAXING GIBBOUS~~aFULL~~aWANING GIBBOUS~~aLAST QUARTER~~",
   "aWANING CRESCENT~~aCRESCENT MOONaNEW MOON WITH FACEaFIRST QUARTER~~~aLAST~~~~aFULL~~~aSUN~~",
   "aGLOWING STARaSHOOTING~aTHERMOMETERaBLACK DROPLETaWHITE SUNcWITH SMALL CLOUDcBEHIND~eWITH RAIN",
   "a~~~cSNOWcLIGHTNINGcTORNADOaFOGaWIND BLOWING FACEaHOT DOGaTACOaBURRITOaCHESTNUTaSEEDLING",
   "aEVERGREEN TREEaDECIDUOUS~aPALM~aCACTUSaHOT PEPPERaTULIPaCHERRY BLOSSOMaROSEaHIBISCUS",
   "aSUNFLOWERaBLOSSOMaEAR OF MAIZEcRICEaHERBaFOUR LEAF CLOVERaMAPLE LEAFaFALLEN~",
   "aLEAF FLUTTERING IN WINDaMUSHROOMaTOMATOaAUBERGINEaGRAPESaMELONaWATERMELONaTANGERINEaLEMON",
   "aBANANAaPINEAPPLEaRED APPLEaGREEN~aPEARaPEACHaCHERRIESaSTRAWBERRYaHAMBURGERaSLICE OF PIZZA",
   "aMEAT ON BONEaPOULTRY LEGaRICE CRACKERbBALLaCOOKED RICEaCURRY AND~aSTEAMING BOWLaSPAGHETTI",
   "aBREADaFRENCH FRIESaROASTED SWEET POTATOaDANGOaODENaSUSHIaFRIED SHRIMP",
   "aFISH CAKE WITH SWIRL DESIGNaSOFT ICE CREAMaSHAVED ICEaICE CREAMaDOUGHNUTaCOOKIEaCHOCOLATE BAR",
   "aCANDYaLOLLIPOPaCUSTARDaHONEY POTaSHORTCAKEaBENTO BOXaPOT OF FOODaCOOKINGaFORK AND KNIFE",
   "aTEACUP WITHOUT HANDLEaSAKE BOTTLE AND CUPaWINE GLASSaCOCKTAIL~aTROPICAL DRINKaBEER MUG",
   "aCLINKING BEER MUGSaBABY BOTTLEaFORK AND KNIFE WITH PLATEaBOTTLE WITH POPPING CORKaPOPCORN",
   "aRIBBONaWRAPPED PRESENTaBIRTHDAY CAKEaJACK-O-LANTERNaCHRISTMAS TREEaFATHER CHRISTMASaFIREWORKS",
   "aFIREWORK SPARKLERaBALLOONaPARTY POPPERaCONFETTI BALLaTANABATA TREEaCROSSED FLAGS",
   "aPINE DECORATIONaJAPANESE DOLLSaCARP STREAMERaWIND CHIMEaMOON VIEWING CEREMONYaSCHOOL SATCHEL",
   "aGRADUATION CAPaHEART WITH TIP ON THE LEFTaBOUQUET OF FLOWERSaMILITARY MEDALaREMINDER RIBBON",
   "aMUSICAL KEYBOARD WITH JACKSaSTUDIO MICROPHONEaLEVEL SLIDERaCONTROL KNOBS",
   "aBEAMED ASCENDING MUSICAL NOTESbDESCENDING~~aFILM FRAMESaADMISSION TICKETSaCAROUSEL HORSE",
   "aFERRIS WHEELaROLLER COASTERaFISHING POLE AND FISHaMICROPHONEaMOVIE CAMERAaCINEMAaHEADPHONE",
   "aARTIST PALETTEaTOP HATaCIRCUS TENTaTICKETaCLAPPER BOARDaPERFORMING ARTSaVIDEO GAMEaDIRECT HIT",
   "aSLOT MACHINEaBILLIARDSaGAME DIEaBOWLINGaFLOWER PLAYING CARDSaMUSICAL NOTE",
   "aMULTIPLE MUSICAL NOTESaSAXOPHONEaGUITARaMUSICAL KEYBOARDaTRUMPETaVIOLINaMUSICAL SCORE",
   "aRUNNING SHIRT WITH SASHaTENNIS RACQUET AND BALLaSKI AND SKI BOOTaBASKETBALL AND HOOP",
   "aCHEQUERED FLAGaSNOWBOARDERaRUNNERaSURFERaSPORTS MEDALaTROPHYaHORSE RACINGaAMERICAN FOOTBALL",
   "aRUGBY~aSWIMMERaWEIGHT LIFTERaGOLFERaRACING MOTORCYCLEbCARaCRICKET BAT AND BALLaVOLLEYBALL",
   "aFIELD HOCKEY STICK AND BALLaICE HOCKEY STICK AND PUCKaTABLE TENNIS PADDLE AND BALL",
   "aSNOW CAPPED MOUNTAINaCAMPINGaBEACH WITH UMBRELLAaBUILDING CONSTRUCTIONaHOUSE BUILDINGS",
   "aCITYSCAPEaDERELICT HOUSE BUILDINGaCLASSICAL~aDESERTbISLANDaNATIONAL PARKaSTADIUM",
   "aHOUSE BUILDINGbWITH GARDENaOFFICE BUILDINGaJAPANESE POST OFFICEaEUROPEAN~~aHOSPITALaBANK",
   "aAUTOMATED TELLER MACHINEaHOTELaLOVE~aCONVENIENCE STOREaSCHOOLaDEPARTMENT STOREaFACTORY",
   "aIZAKAYA LANTERNaJAPANESE CASTLEaEUROPEAN~aWHITE PENNANTaBLACK~aWAVING WHITE FLAGbBLACK~",
   "aROSETTEaBLACK~aLABELaBADMINTON RACQUET AND SHUTTLECOCKaBOW AND ARROWaAMPHORA",
   "aEMOJI MODIFIER FITZPATRICK TYPE-1-2dTYPE-3+3aRATaMOUSEaOXaWATER BUFFALOaCOWaTIGERaLEOPARD",
   "aRABBITaCATaDRAGONaCROCODILEaWHALEaSNAILaSNAKEaHORSEaRAMaGOATaSHEEPaMONKEYaROOSTERaCHICKENaDOG",
   "aPIGaBOARaELEPHANTaOCTOPUSaSPIRAL SHELLaBUGaANTaHONEYBEEaLADY BEETLEaFISHaTROPICAL~aBLOWFISH",
   "aTURTLEaHATCHING CHICKaBABY~aFRONT-FACING~~aBIRDaPENGUINaKOALAaPOODLEaDROMEDARY CAMEL",
   "aBACTRIAN~aDOLPHINaMOUSE FACEaCOW~aTIGER~aRABBIT~aCAT~aDRAGON~aSPOUTING WHALEaHORSE FACE",
   "aMONKEY~aDOG~aPIG~aFROG~aHAMSTER~aWOLF~aBEAR~aPANDA~aPIG NOSEaPAW PRINTSaCHIPMUNKaEYESaEYEaEAR",
   "aNOSEaMOUTHaTONGUEaWHITE UP POINTING BACKHAND INDEXbDOWN~~~bLEFT~~~bRIGHT~~~aFISTED HAND SIGN",
   "aWAVING~~aOK~~aTHUMBS UP~bDOWN~aCLAPPING HANDS~aOPEN~~aCROWNaWOMANS HATaEYEGLASSESaNECKTIE",
   "aT-SHIRTaJEANSaDRESSaKIMONOaBIKINIaWOMANS CLOTHESaPURSEaHANDBAGaPOUCHaMANS SHOEaATHLETIC~",
   "aHIGH-HEELED~aWOMANS SANDALbBOOTSaFOOTPRINTSaBUST IN SILHOUETTEaBUSTS~~aBOYaGIRLaMANaWOMAN",
   "aFAMILYaMAN AND WOMAN HOLDING HANDSaTWO MEN~~bWOMEN~~aPOLICE OFFICERaWOMAN WITH BUNNY EARS",
   "aBRIDE WITH VEILaPERSON WITH BLOND HAIRaMAN WITH GUA PI MAOcTURBANaOLDER MANbWOMANaBABY",
   "aCONSTRUCTION WORKERaPRINCESSaJAPANESE OGREbGOBLINaGHOSTaBABY ANGELaEXTRATERRESTRIAL ALIEN",
   "aALIEN MONSTERaIMPaSKULLaINFORMATION DESK PERSONaGUARDSMANaDANCERaLIPSTICKaNAIL POLISH",
   "aFACE MASSAGEaHAIRCUTaBARBER POLEaSYRINGEaPILLaKISS MARKaLOVE LETTERaRINGaGEM STONEaKISS",
   "aBOUQUETaCOUPLE WITH HEARTaWEDDINGaBEATING HEARTaBROKEN~aTWO HEARTSaSPARKLING HEARTaGROWING~",
   "aHEART WITH ARROWaBLUE HEARTaGREEN~aYELLOW~aPURPLE~aHEART WITH RIBBONaREVOLVING HEARTS",
   "aHEART DECORATIONaDIAMOND SHAPE WITH A DOT INSIDEaELECTRIC LIGHT BULBaANGER SYMBOLaBOMB",
   "aSLEEPING SYMBOLaCOLLISION~aSPLASHING SWEAT~aDROPLETaDASH SYMBOLaPILE OF POOaFLEXED BICEPS",
   "aDIZZY SYMBOLaSPEECH BALLOONaTHOUGHT~aWHITE FLOWERaHUNDRED POINTS SYMBOLaMONEY BAG",
   "aCURRENCY EXCHANGEaHEAVY DOLLAR SIGNaCREDIT CARDaBANKNOTE WITH YEN SIGNcDOLLAR~cEURO~cPOUND~",
   "aMONEY WITH WINGSaCHART WITH UPWARDS TREND AND YEN SIGNaSEATaPERSONAL COMPUTERaBRIEFCASE",
   "aMINIDISCaFLOPPY DISKaOPTICAL DISCaDVDaFILE FOLDERaOPEN~~aPAGE WITH CURLbFACING UPaCALENDAR",
   "aTEAR-OFF~aCARD INDEXaCHART WITH UPWARDS TRENDcDOWNWARDS~aBAR CHARTaCLIPBOARDaPUSHPINaROUND~",
   "aPAPERCLIPaSTRAIGHT RULERaTRIANGULAR~aBOOKMARK TABSaLEDGERaNOTEBOOKbWITH DECORATIVE COVER",
   "aCLOSED BOOKaOPEN~aGREEN~aBLUE~aORANGE~aBOOKSaNAME BADGEaSCROLLaMEMOaTELEPHONE RECEIVERaPAGER",
   "aFAX MACHINEaSATELLITE ANTENNAaPUBLIC ADDRESS LOUDSPEAKERaCHEERING MEGAPHONEaOUTBOX TRAY",
   "aINBOX~aPACKAGEaE-MAIL SYMBOLaINCOMING ENVELOPEaENVELOPE WITH DOWNWARDS ARROW ABOVE",
   "aCLOSED MAILBOX WITH LOWERED FLAGdRAISED~aOPEN~~~~dLOWERED~aPOSTBOXaPOSTAL HORNaNEWSPAPER",
   "aMOBILE PHONEcWITH RIGHTWARDS ARROW AT LEFTaVIBRATION MODEaMOBILE PHONE OFFaNO MOBILE PHONES",
   "aANTENNA WITH BARSaCAMERAbWITH FLASHaVIDEO CAMERAaTELEVISIONaRADIOaVIDEOCASSETTE",
   "aFILM PROJECTORaPORTABLE STEREOaPRAYER BEADSaTWISTED RIGHTWARDS ARROWS",
   "aCLOCKWISE RIGHTWARDS AND LEFTWARDS OPEN CIRCLE~hWITH CIRCLED ONE OVERLAY",
   "bDOWNWARDS AND UPWARDS OPEN CIRCLE ARROWSaANTICLOCKWISE~~~~~~aLOW BRIGHTNESS SYMBOLaHIGH~~",
   "aSPEAKER WITH CANCELLATION STROKEbbWITH ONE SOUND WAVEcTHREE SOUND WAVESaBATTERYaELECTRIC PLUG",
   "aLEFT-POINTING MAGNIFYING GLASSaRIGHT-POINTING~~aLOCK WITH INK PENaCLOSED LOCK WITH KEYa~aLOCK",
   "aOPEN~aBELLbWITH CANCELLATION STROKEaBOOKMARKaLINK SYMBOLaRADIO BUTTON",
   "aBACK WITH LEFTWARDS ARROW ABOVEaEND~~~~aON WITH EXCLAMATION MARK WITH LEFT RIGHT~~",
   "aSOON WITH RIGHTWARDS~~aTOP WITH UPWARDS~~aNO ONE UNDER EIGHTEEN SYMBOLaKEYCAP TEN",
   "aINPUT SYMBOL FOR LATIN CAPITAL LETTERSeSMALL~dNUMBERSdSYMBOLSdLATIN LETTERSaFIRE",
   "aELECTRIC TORCHaWRENCHaHAMMERaNUT AND BOLTaHOCHOaPISTOLaMICROSCOPEaTELESCOPEaCRYSTAL BALL",
   "aSIX POINTED STAR WITH MIDDLE DOTaJAPANESE SYMBOL FOR BEGINNERaTRIDENT EMBLEM",
   "aBLACK SQUARE BUTTONaWHITE~~aLARGE RED CIRCLEbBLUE~bORANGE DIAMONDbBLUE~aSMALL ORANGE~bBLUE~",
   "aUP-POINTING RED TRIANGLEaDOWN-POINTING~~aUP-POINTING SMALL~~aDOWN-POINTING~~~",
   "aLOWER RIGHT SHADOWED WHITE CIRCLEaUPPER~~~~aCIRCLED CROSS POMMEE",
   "aCROSS POMMEE WITH HALF-CIRCLE BELOWcaNOTCHED LEFT SEMICIRCLE WITH THREE DOTSbRIGHT~~~~",
   "aSYMBOL FOR MARKS CHAPTERaWHITE LATIN CROSSaHEAVY~~aCELTIC~aOM SYMBOLaDOVE OF PEACEaKAABA",
   "aMOSQUEaSYNAGOGUEaMENORAH WITH NINE BRANCHESaBOWL OF HYGIEIAaCLOCK FACE ONE OCLOCKcTWO~cTHREE~",
   "cFOUR~cFIVE~cSIX~cSEVEN~cEIGHT~cNINE~cTEN~cELEVEN~cTWELVE~cONE-THIRTYcTWO-THIRTYcTHREE-THIRTY",
   "cFOUR-THIRTYcFIVE-THIRTYcSIX-THIRTYcSEVEN-THIRTYcEIGHT-THIRTYcNINE-THIRTYcTEN-THIRTY",
   "cELEVEN-THIRTYcTWELVE-THIRTYaRIGHT SPEAKERcWITH ONE SOUND WAVEdTHREE SOUND WAVESaBULLHORN",
   "bWITH SOUND WAVESaRINGING BELLaBOOKaCANDLEaMANTELPIECE CLOCKaBLACK SKULL AND CROSSBONES",
   "aNO PIRACYaHOLEaMAN IN BUSINESS SUIT LEVITATINGaSLEUTH OR SPYaDARK SUNGLASSESaSPIDERbWEB",
   "aJOYSTICKaMAN DANCINGaLEFT HAND TELEPHONE RECEIVERaTELEPHONE RECEIVER WITH PAGE",
   "aRIGHT HAND TELEPHONE RECEIVERaWHITE TOUCHTONE TELEPHONEaBLACK~~aTELEPHONE ON TOP OF MODEM",
   "aCLAMSHELL MOBILE PHONEaBACK OF ENVELOPEaSTAMPED~aENVELOPE WITH LIGHTNINGaFLYING ENVELOPE",
   "aPEN OVER STAMPED~aLINKED PAPERCLIPSaBLACK PUSHPINaLOWER LEFT PENCILcBALLPOINT PENcFOUNTAIN~",
   "cPAINTBRUSHcCRAYONaLEFT WRITING HANDaTURNED OK HAND SIGNaRAISED HAND WITH FINGERS SPLAYED",
   "aREVERSED~~~~~bTHUMBS UP SIGNcDOWN~bVICTORY HANDbHAND WITH MIDDLE FINGER EXTENDED",
   "aRAISED HAND WITH PART BETWEEN MIDDLE AND RING FINGERSaWHITE DOWN POINTING LEFT HAND INDEX",
   "aSIDEWAYS WHITE LEFT POINTING~cRIGHT~~bBLACK LEFT~~cRIGHT~~aBLACK LEFT POINTING BACKHAND~",
   "bRIGHT~~~aSIDEWAYS WHITE UP POINTING~cDOWN~~bBLACK UP~~cDOWN~~aBLACK UP POINTING BACKHAND~",
   "bDOWN~~~bHEARTaDESKTOP COMPUTERaKEYBOARD AND MOUSEaTHREE NETWORKED COMPUTERSaPRINTER",
   "aPOCKET CALCULATORaBLACK HARD SHELL FLOPPY DISKaWHITE~~~~aSOFT~~~aTAPE CARTRIDGE",
   "aWIRED KEYBOARDaONE BUTTON MOUSEaTWO~~aTHREE~~aTRACKBALLaOLD PERSONAL COMPUTERaHARD DISK",
   "aSCREENaPRINTER ICONaFAX~aOPTICAL DISC~aDOCUMENT WITH TEXTdAND PICTUREc~aFRAME~~cTILEScAN X",
   "aBLACK FOLDERa~aOPEN~aCARD INDEX DIVIDERSbFILE BOXaFILE CABINETaEMPTY NOTEcPAGEcPADaNOTEbPAGE",
   "bPADaEMPTY DOCUMENTbPAGEbPAGESaDOCUMENTaPAGEaPAGESaWASTEBASKETaSPIRAL NOTE PADbCALENDAR~",
   "aDESKTOP WINDOWaMINIMIZEaMAXIMIZEaOVERLAPaCLOCKWISE RIGHT AND LEFT SEMICIRCLE ARROWS",
   "aCANCELLATION XaINCREASE FONT SIZE SYMBOLaDECREASE~~~aCOMPRESSIONaOLD KEYaROLLED-UP NEWSPAPER",
   "aPAGE WITH CIRCLED TEXTaSTOCK CHARTaDAGGER KNIFEaLIPSaSPEAKING HEAD IN SILHOUETTE",
   "aTHREE RAYS ABOVEcBELOWcLEFTcRIGHTaLEFT SPEECH BUBBLEaRIGHT~~aTWO SPEECH BUBBLESaTHREE~~",
   "aLEFT THOUGHT BUBBLEaRIGHT~~aLEFT ANGER~aRIGHT~~aMOOD~aLIGHTNING~~caBALLOT BOX WITH BALLOT",
   "bSCRIPT XbBOX WITH~~bBOLD~~bBOX WITH~~~aLIGHT CHECK MARKaBALLOT BOX WITH BOLD CHECKaWORLD MAP",
   "aMOUNT FUJIaTOKYO TOWERaSTATUE OF LIBERTYaSILHOUETTE OF JAPANaMOYAIaGRINNING FACE",
   "cWITH SMILING EYESaFACE WITH TEARS OF JOYaSMILING FACE WITH OPEN MOUTHfAND SMILING EYES",
   "gCOLD SWEATgTIGHTLY-CLOSED EYESdHALOdHORNSaWINKING FACEaSMILING FACE WITH SMILING EYES",
   "aFACE SAVOURING DELICIOUS FOODaRELIEVED FACEaSMILING FACE WITH HEART-SHAPED EYESdSUNGLASSES",
   "aSMIRKING FACEaNEUTRAL~aEXPRESSIONLESS~aUNAMUSED~aFACE WITH COLD SWEATaPENSIVE FACEaCONFUSED~",
   "aCONFOUNDED~aKISSING~aFACE THROWING A KISSaKISSING FACE WITH SMILING EYESdCLOSED~",
   "aFACE WITH STUCK-OUT TONGUEeAND WINKING EYEfTIGHTLY-CLOSED EYESaDISAPPOINTED FACEaWORRIED~",
   "aANGRY~aPOUTING~aCRYING~aPERSEVERING~aFACE WITH LOOK OF TRIUMPHaDISAPPOINTED BUT RELIEVED FACE",
   "aFROWNING FACE WITH OPEN MOUTHaANGUISHED FACEaFEARFUL~aWEARY~aSLEEPY~aTIRED~aGRIMACING~",
   "aLOUDLY CRYING~aFACE WITH OPEN MOUTHaHUSHED FACEaFACE WITH OPEN MOUTH AND COLD SWEAT",
   "bSCREAMING IN FEARaASTONISHED FACEaFLUSHED~aSLEEPING~aDIZZY~aFACE WITHOUT MOUTH",
   "bWITH MEDICAL MASKaGRINNING CAT FACE WITH SMILING EYESaCAT FACE WITH TEARS OF JOY",
   "aSMILING CAT FACE WITH OPEN MOUTHeHEART-SHAPED EYESaCAT FACE WITH WRY SMILE",
   "aKISSING CAT FACE WITH CLOSED EYESaPOUTING CAT FACEaCRYING~~aWEARY~~aSLIGHTLY FROWNING~",
   "bSMILING~aUPSIDE-DOWN~aFACE WITH ROLLING EYEScNO GOOD GESTUREcOK~aPERSON BOWING DEEPLY",
   "aSEE-NO-EVIL MONKEYaHEAR-NO-EVIL~aSPEAK-NO-EVIL~aHAPPY PERSON RAISING ONE HAND",
   "aPERSON RAISING BOTH HANDS IN CELEBRATIONbFROWNINGbWITH POUTING FACEcFOLDED HANDS",
   "aNORTH WEST POINTING LEAFaSOUTH~~~aNORTH EAST~~aSOUTH~~~aTURNED NORTH WEST~~bSOUTH~~~",
   "bNORTH EAST~~bSOUTH~~~aNORTH WEST POINTING VINE~aSOUTH~~~~aNORTH EAST~~~aSOUTH~~~~",
   "aHEAVY NORTH WEST~~~bSOUTH~~~~bNORTH EAST~~~bSOUTH~~~~aNORTH WEST POINTING BUDaSOUTH~~~",
   "aNORTH EAST~~aSOUTH~~~aHEAVY NORTH WEST~~bSOUTH~~~bNORTH EAST~~bSOUTH~~~",
   "aHOLLOW QUILT SQUARE ORNAMENTeIN BLACK SQUAREaSOLID QUILT SQUARE ORNAMENTeIN BLACK SQUARE",
   "aLEFTWARDS ROCKETaUPWARDS~aRIGHTWARDS~aDOWNWARDS~aSCRIPT LIGATURE ET ORNAMENTaHEAVY~~~~",
   "aLIGATURE OPEN~~aHEAVY~~~~bAMPERSAND~aSWASH~~",
   "aSANS-SERIF HEAVY DOUBLE TURNED COMMA QUOTATION MARK~d~~~~cLOW~~~~~aHEAVY INTERROBANG~",
   "aSANS-SERIF~~aHEAVY~~~aVERY HEAVY SOLIDUScREVERSE~aCHECKER BOARDaREVERSE~~aROCKETaHELICOPTER",
   "aSTEAM LOCOMOTIVEaRAILWAY CARaHIGH-SPEED TRAINcWITH BULLET NOSEaTRAINaMETROaLIGHT RAILaSTATION",
   "aTRAMbCARaBUSaONCOMING~aTROLLEYBUSaBUS STOPaMINIBUSaAMBULANCEaFIRE ENGINEaPOLICE CAR",
   "aONCOMING~~aTAXIaONCOMING~aAUTOMOBILEaONCOMING~aRECREATIONAL VEHICLEaDELIVERY TRUCK",
   "aARTICULATED LORRYaTRACTORaMONORAILaMOUNTAIN RAILWAYaSUSPENSION~aMOUNTAIN CABLEWAY",
   "aAERIAL TRAMWAYaSHIPaROWBOATaSPEEDBOATaHORIZONTAL TRAFFIC LIGHTaVERTICAL~~aCONSTRUCTION SIGN",
   "aPOLICE CARS REVOLVING LIGHTaTRIANGULAR FLAG ON POSTaDOORaNO ENTRY SIGNaSMOKING SYMBOLaNO~~",
   "aPUT LITTER IN ITS PLACE~aDO NOT LITTER~aPOTABLE WATER~aNON-POTABLE~~aBICYCLEaNO BICYCLES",
   "aBICYCLISTaMOUNTAIN~aPEDESTRIANaNO PEDESTRIANSaCHILDREN CROSSINGaMENS SYMBOLaWOMENS~aRESTROOM",
   "aBABY SYMBOLaTOILETaWATER CLOSETaSHOWERaBATHaBATHTUBaPASSPORT CONTROLaCUSTOMSaBAGGAGE CLAIM",
   "aLEFT LUGGAGEaTRIANGLE WITH ROUNDED CORNERSaPROHIBITED SIGNaCIRCLED INFORMATION SOURCE",
   "aBOYS SYMBOLaGIRLS~aCOUCH AND LAMPaSLEEPING ACCOMMODATIONaSHOPPING BAGSaBELLHOP BELLaBED",
   "aPLACE OF WORSHIPaOCTAGONAL SIGNaSHOPPING TROLLEYaSTUPAaPAGODAaHINDU TEMPLEaHUTaELEVATOR@1F6DC",
   "aWIRELESSaPLAYGROUND SLIDEaWHEELaRING BUOYaHAMMER AND WRENCHaSHIELDaOIL DRUMaMOTORWAY",
   "aRAILWAY TRACKaMOTOR BOATaUP-POINTING MILITARY AIRPLANEb~bSMALL~a~~aNORTHEAST-POINTING~",
   "aAIRPLANE DEPARTUREbARRIVING@1F6F0aSATELLITEaONCOMING FIRE ENGINEaDIESEL LOCOMOTIVE",
   "aPASSENGER SHIPaSCOOTERaMOTOR~aCANOEaSLEDaFLYING SAUCERaSKATEBOARDaAUTO RICKSHAWaPICKUP TRUCK",
   "aROLLER SKATE@1F700aALCHEMICAL SYMBOL FOR QUINTESSENCEdAIRdFIREdEARTHdWATERdAQUAFORTIS",
   "dAQUA REGIAeREGIA-2eVITAEeVITAE-2dVINEGARdVINEGAR-2+1dSULFURdPHILOSOPHERS~dBLACK~",
   "dMERCURY SUBLIMATEeSUBLIMATE-2+1dCINNABARdSALTdNITREdVITRIOLdVITRIOL-2dROCK SALTeSALT-2dGOLD",
   "dSILVERdIRON OREeORE-2dCROCUS OF IRONdREGULUS~~dCOPPER OREdIRON-COPPER~dSUBLIMATE OF COPPER",
   "dCROCUS~~fCOPPER-2dCOPPER ANTIMONIATEdSALT OF~~dSUBLIMATE OF SALT OF COPPERdVERDIGRISdTIN ORE",
   "dLEAD~dANTIMONY~dSUBLIMATE OF ANTIMONYdSALT~~dSUBLIMATE OF~~~dVINEGAR~~dREGULUS~~fANTIMONY-2e",
   "dREGULUS-2+2dALKALIdALKALI-2dMARCASITEdSAL-AMMONIACdARSENICdREALGARdREALGAR-2dAURIPIGMENT",
   "dBISMUTH OREdTARTARdTARTAR-2dQUICK LIMEdBORAXdBORAX-2+1dALUMdOILdSPIRITdTINCTUREdGUMdWAX",
   "dPOWDERdCALXdTUTTYdCAPUT MORTUUMdSCEPTER OF JOVEdCADUCEUSdTRIDENTdSTARRED~dLODESTONEdSOAP",
   "dURINEdHORSE DUNGdASHESdPOT~dBRICKdPOWDERED~dAMALGAMdSTRATUM SUPER STRATUMfSTRATUM-2",
   "dSUBLIMATIONdPRECIPITATEdDISTILLdDISSOLVEdDISSOLVE-2dPURIFYdPUTREFACTIONdCRUCIBLEdCRUCIBLE-2+3",
   "dALEMBICdBATH OF MARYfVAPOURSdRETORTdHOURdNIGHTdDAY-NIGHTdMONTHdHALF DRAMeOUNCEaLOT OF FORTUNE",
   "aOCCULTATIONaLUNAR ECLIPSE@1F77BaHAUMEAaMAKEMAKEaGONGGONGaQUAOARaORCUS",
   "aBLACK LEFT-POINTING ISOSCELES RIGHT TRIANGLEbUP-POINTING~~~bRIGHT-POINTING~~~",
   "bDOWN-POINTING~~~bSLIGHTLY SMALL CIRCLEaMEDIUM BOLD WHITE~a~~~aHEAVY~~aVERY~~~aEXTREMELY~~~",
   "aWHITE CIRCLE CONTAINING BLACK SMALL~aROUND TARGETaBLACK TINY SQUAREbSLIGHTLY SMALL~",
   "aLIGHT WHITE~aMEDIUM~~aBOLD~~aHEAVY~~aVERY~~~aEXTREMELY~~~",
   "aWHITE SQUARE CONTAINING BLACK VERY SMALL~eMEDIUM~aSQUARE TARGETaBLACK TINY DIAMOND",
   "bVERY SMALL~bMEDIUM~~aWHITE DIAMOND CONTAINING BLACK VERY~~eMEDIUM~aDIAMOND TARGET",
   "aBLACK TINY LOZENGEbVERY SMALL~bMEDIUM~~aWHITE LOZENGE CONTAINING BLACK~~aTHIN GREEK CROSS",
   "aLIGHT~~aMEDIUM~~aBOLD~~aVERY~~~bHEAVY~~aEXTREMELY~~~aTHIN SALTIREaLIGHT~aMEDIUM~aBOLD~aHEAVY~",
   "aVERY~~aEXTREMELY~~aLIGHT FIVE SPOKED ASTERISKaMEDIUM~~~aBOLD~~~aHEAVY~~~aVERY~~~~",
   "aEXTREMELY~~~~aLIGHT SIX~~aMEDIUM~~~aBOLD~~~aHEAVY~~~aVERY~~~~aEXTREMELY~~~~aLIGHT EIGHT~~",
   "aMEDIUM~~~aBOLD~~~aHEAVY~~~aVERY~~~~aLIGHT THREE POINTED BLACK STARaMEDIUM~~~~a~~~~",
   "aMEDIUM THREE POINTED PINWHEEL~aLIGHT FOUR POINTED BLACK~aMEDIUM~~~~a~~~~",
   "aMEDIUM FOUR POINTED PINWHEEL~aREVERSE LIGHT~~~~aLIGHT FIVE POINTED BLACK~aHEAVY~~~~",
   "aMEDIUM SIX~~~aHEAVY~~~~aSIX POINTED PINWHEEL~aMEDIUM EIGHT POINTED BLACK~aHEAVY~~~~aVERY~~~~~",
   "aHEAVY EIGHT POINTED PINWHEEL~aLIGHT TWELVE POINTED BLACK~aHEAVY~~~~dPINWHEEL~",
   "aCIRCLED TRIANGLEaNEGATIVE~~aCIRCLED SQUAREaNEGATIVE~~aNINE POINTED WHITE STAR@1F7E0",
   "aLARGE ORANGE CIRCLEbYELLOW~bGREEN~bPURPLE~bBROWN~bRED SQUAREbBLUE~bORANGE~bYELLOW~bGREEN~",
   "bPURPLE~bBROWN~@1F7F0aHEAVY EQUALS SIGN@1F800aLEFTWARDS ARROW WITH SMALL TRIANGLE ARROWHEAD",
   "aUPWARDS~~~~~aRIGHTWARDS~~~~~aDOWNWARDS~~~~~aLEFTWARDS ARROW WITH MEDIUM~~aUPWARDS~~~~~",
   "aRIGHTWARDS~~~~~aDOWNWARDS~~~~~aLEFTWARDS ARROW WITH LARGE~~aUPWARDS~~~~~aRIGHTWARDS~~~~~",
   "aDOWNWARDS~~~~~@1F810aLEFTWARDS ARROW WITH SMALL EQUILATERAL~aUPWARDS~~~~~aRIGHTWARDS~~~~~",
   "aDOWNWARDS~~~~~aLEFTWARDS ARROW WITH~~aUPWARDS~~~~aRIGHTWARDS~~~~aDOWNWARDS~~~~",
   "aHEAVY LEFTWARDS~~~~bUPWARDS~~~~bRIGHTWARDS~~~~bDOWNWARDS~~~~bLEFTWARDS ARROW WITH LARGE~~",
   "bUPWARDS~~~~~bRIGHTWARDS~~~~~bDOWNWARDS~~~~~aLEFTWARDS TRIANGLE-HEADED ARROW WITH NARROW SHAFT",
   "aUPWARDS~~~~~aRIGHTWARDS~~~~~aDOWNWARDS~~~~~aLEFTWARDS TRIANGLE-HEADED ARROW WITH MEDIUM~",
   "aUPWARDS~~~~~aRIGHTWARDS~~~~~aDOWNWARDS~~~~~aLEFTWARDS TRIANGLE-HEADED ARROW WITH BOLD~",
   "aUPWARDS~~~~~aRIGHTWARDS~~~~~aDOWNWARDS~~~~~aLEFTWARDS TRIANGLE-HEADED ARROW WITH HEAVY~",
   "aUPWARDS~~~~~aRIGHTWARDS~~~~~aDOWNWARDS~~~~~aLEFTWARDS TRIANGLE-HEADED ARROW WITH VERY~~",
   "aUPWARDS~~~~~~aRIGHTWARDS~~~~~~aDOWNWARDS~~~~~~aLEFTWARDS FINGER-POST ARROWaUPWARDS~~",
   "aRIGHTWARDS~~aDOWNWARDS~~aLEFTWARDS SQUARED~aUPWARDS~~aRIGHTWARDS~~aDOWNWARDS~~",
   "aLEFTWARDS COMPRESSED~aUPWARDS~~aRIGHTWARDS~~aDOWNWARDS~~aLEFTWARDS HEAVY~~aUPWARDS~~~",
   "aRIGHTWARDS~~~aDOWNWARDS~~~aLEFTWARDS HEAVY~aUPWARDS~~aRIGHTWARDS~~aDOWNWARDS~~@1F850",
   "aLEFTWARDS SANS-SERIF~aUPWARDS~~aRIGHTWARDS~~aDOWNWARDS~~aNORTH WEST~~bEAST~~aSOUTH~~~bWEST~~",
   "aLEFT RIGHT~~aUP DOWN~~@1F860aWIDE-HEADED LEFTWARDS LIGHT BARB~bUPWARDS~~~bRIGHTWARDS~~~",
   "bDOWNWARDS~~~bNORTH WEST~~~cEAST~~~bSOUTH~~~~cWEST~~~bLEFTWARDS~~bUPWARDS~~bRIGHTWARDS~~",
   "bDOWNWARDS~~bNORTH WEST~~cEAST~~bSOUTH~~~cWEST~~bLEFTWARDS MEDIUM~~bUPWARDS~~~bRIGHTWARDS~~~",
   "bDOWNWARDS~~~bNORTH WEST~~~cEAST~~~bSOUTH~~~~cWEST~~~bLEFTWARDS HEAVY~~bUPWARDS~~~",
   "bRIGHTWARDS~~~bDOWNWARDS~~~bNORTH WEST~~~cEAST~~~bSOUTH~~~~cWEST~~~bLEFTWARDS VERY~~~",
   "bUPWARDS~~~~bRIGHTWARDS~~~~bDOWNWARDS~~~~bNORTH WEST~~~~cEAST~~~~bSOUTH~~~~~cWEST~~~~@1F890",
   "aLEFTWARDS TRIANGLE ARROWHEADaUPWARDS~~aRIGHTWARDS~~aDOWNWARDS~~",
   "aLEFTWARDS WHITE ARROW WITHIN~~aUPWARDS~~~~~aRIGHTWARDS~~~~~aDOWNWARDS~~~~~",
   "aLEFTWARDS ARROW WITH NOTCHED TAILaUPWARDS~~~~aRIGHTWARDS~~~~aDOWNWARDS~~~~",
   "aHEAVY ARROW SHAFT WIDTH ONEeTWO THIRDSeONE HALFfTHIRDaLEFTWARDS BOTTOM-SHADED WHITE ARROW",
   "aRIGHTWARDS BOTTOM SHADED~~aLEFTWARDS TOP~~~aRIGHTWARDS~~~~aLEFTWARDS LEFT-SHADED~~",
   "aRIGHTWARDS RIGHT-SHADED~~aLEFTWARDS~~~aRIGHTWARDS LEFT-SHADED~~",
   "aLEFTWARDS BACK-TILTED SHADOWED~~aRIGHTWARDS~~~~aLEFTWARDS FRONT-TILTED~~~aRIGHTWARDS~~~~",
   "aWHITE ARROW SHAFT WIDTH ONEeTWO THIRDS@1F8B0aARROW POINTING UPWARDS THEN NORTH WEST",
   "cRIGHTWARDS THEN CURVING SOUTH~@1F900aCIRCLED CROSS FORMEE WITH FOUR DOTSeTWO~d",
   "aLEFT HALF CIRCLE WITH FOUR DOTSeTHREE~eTWO~eDOTdaDOWNWARD FACING HOOKcNOTCHED~cHOOK WITH DOT",
   "cNOTCHED~~~aPINCHED FINGERSaWHITE HEARTaBROWN~aPINCHING HANDaZIPPER-MOUTH FACEaMONEY-MOUTH~",
   "aFACE WITH THERMOMETERaNERD FACEaTHINKING~aFACE WITH HEAD-BANDAGEaROBOT FACEaHUGGING~",
   "aSIGN OF THE HORNSaCALL ME HANDaRAISED BACK OF~aLEFT-FACING FISTaRIGHT-FACING~aHANDSHAKE",
   "aHAND WITH INDEX AND MIDDLE FINGERS CROSSEDaI LOVE YOU HAND SIGNaFACE WITH COWBOY HAT",
   "aCLOWN FACEaNAUSEATED~aROLLING ON THE FLOOR LAUGHINGaDROOLING FACEaLYING~aFACE PALM",
   "aSNEEZING FACEaFACE WITH ONE EYEBROW RAISEDaGRINNING FACE WITH STAR EYES",
   "dONE LARGE AND ONE SMALL EYEaFACE WITH FINGER COVERING CLOSED LIPS",
   "aSERIOUS FACE WITH SYMBOLS COVERING MOUTHaSMILING FACE WITH SMILING EYES AND HAND~~",
   "aFACE WITH OPEN MOUTH VOMITINGaSHOCKED FACE WITH EXPLODING HEADaPREGNANT WOMANaBREAST-FEEDING",
   "aPALMS UP TOGETHERaSELFIEaPRINCEaMAN IN TUXEDOaMOTHER CHRISTMASaSHRUGaPERSON DOING CARTWHEEL",
   "aJUGGLINGaFENCERaMODERN PENTATHLONaWRESTLERSaWATER POLOaHANDBALLaDIVING MASKaWILTED FLOWER",
   "aDRUM WITH DRUMSTICKSaCLINKING GLASSESaTUMBLER GLASSaSPOONaGOAL NETaRIFLEaFIRST PLACE MEDAL",
   "aSECOND~~aTHIRD~~aBOXING GLOVEaMARTIAL ARTS UNIFORMaCURLING STONEaLACROSSE STICK AND BALL",
   "aSOFTBALLaFLYING DISCaCROISSANTaAVOCADOaCUCUMBERaBACONaPOTATOaCARROTaBAGUETTE BREAD",
   "aGREEN SALADaSHALLOW PAN OF FOODaSTUFFED FLATBREADaEGGaGLASS OF MILKaPEANUTSaKIWIFRUIT",
   "aPANCAKESaDUMPLINGaFORTUNE COOKIEaTAKEOUT BOXaCHOPSTICKSaBOWL WITH SPOONaCUP WITH STRAW",
   "aCOCONUTaBROCCOLIaPIEaPRETZELaCUT OF MEATaSANDWICHaCANNED FOODaLEAFY GREENaMANGOaMOON CAKE",
   "aBAGELaSMILING FACE WITH SMILING EYES AND THREE HEARTSaYAWNING FACEaSMILING FACE WITH TEAR",
   "aFACE WITH PARTY HORN AND PARTY HATcUNEVEN EYES AND WAVY MOUTHaOVERHEATED FACEaFREEZING~aNINJA",
   "aDISGUISED FACEaFACE HOLDING BACK TEARSbWITH PLEADING EYESaSARIaLAB COATaGOGGLESaHIKING BOOT",
   "aFLAT SHOEaCRABaLION FACEaSCORPIONaTURKEYaUNICORN FACEaEAGLEaDUCKaBATaSHARKaOWLaFOX FACE",
   "aBUTTERFLYaDEERaGORILLAaLIZARDaRHINOCEROSaSHRIMPaSQUIDaGIRAFFE FACEaZEBRA~aHEDGEHOGaSAUROPOD",
   "aT-REXaCRICKETaKANGAROOaLLAMAaPEACOCKaHIPPOPOTAMUSaPARROTaRACCOONaLOBSTERaMOSQUITOaMICROBE",
   "aBADGERaSWANaMAMMOTHaDODOaSLOTHaOTTERaORANGUTANaSKUNKaFLAMINGOaOYSTERaBEAVERaBISONaSEAL",
   "aGUIDE DOGaPROBING CANEaEMOJI COMPONENT RED HAIRcCURLY~cBALDcWHITE HAIRaBONEaLEGaFOOTaTOOTH",
   "aSUPERHEROaSUPERVILLAINaSAFETY VESTaEAR WITH HEARING AIDaMOTORIZED WHEELCHAIRaMANUAL~",
   "aMECHANICAL ARMbLEGaCHEESE WEDGEaCUPCAKEaSALT SHAKERaBEVERAGE BOXaGARLICaONIONaFALAFELaWAFFLE",
   "aBUTTERaMATE DRINKaICE CUBEaBUBBLE TEAaTROLLaSTANDING PERSONaKNEELING~aDEAF~aFACE WITH MONOCLE",
   "aADULTaCHILDaOLDER ADULTaBEARDED PERSONaPERSON WITH HEADSCARFbIN STEAMY ROOMbCLIMBING",
   "bIN LOTUS POSITIONaMAGEaFAIRYaVAMPIREaMERPERSONaELFaGENIEaZOMBIEaBRAINaORANGE HEARTaBILLED CAP",
   "aSCARFaGLOVESaCOATaSOCKSaRED GIFT ENVELOPEaFIRECRACKERaJIGSAW PUZZLE PIECEaTEST TUBE",
   "aPETRI DISHaDNA DOUBLE HELIXaCOMPASSaABACUSaFIRE EXTINGUISHERaTOOLBOXaBRICKaMAGNETaLUGGAGE",
   "aLOTION BOTTLEaSPOOL OF THREADaBALL OF YARNaSAFETY PINaTEDDY BEARaBROOMaBASKETaROLL OF PAPER",
   "aBAR OF SOAPaSPONGEaRECEIPTaNAZAR AMULETaNEUTRAL CHESS KINGcQUEENcROOKcBISHOPcKNIGHTcPAWN",
   "aWHITE CHESS KNIGHT ROTATED FORTY-FIVE DEGREESaBLACK~~~~~aNEUTRAL~~~~~",
   "aWHITE CHESS KING ROTATED NINETY~cQUEEN~~~cROOK~~~cBISHOP~~~cKNIGHT~~~cPAWN~~~",
   "aBLACK CHESS KING~~~cQUEEN~~~cROOK~~~cBISHOP~~~cKNIGHT~~~cPAWN~~~aNEUTRAL CHESS KING~~~",
   "cQUEEN~~~cROOK~~~cBISHOP~~~cKNIGHT~~~cPAWN~~~",
   "aWHITE CHESS KNIGHT ROTATED ONE HUNDRED THIRTY-FIVE~aBLACK~~~~~~~aNEUTRAL~~~~~~~",
   "aWHITE CHESS TURNED KINGdQUEENdROOKdBISHOPdKNIGHTdPAWNaBLACK CHESS TURNED KINGdQUEENdROOK",
   "dBISHOPdKNIGHTdPAWNaNEUTRAL CHESS TURNED KINGdQUEENdROOKdBISHOPdKNIGHTdPAWN",
   "aWHITE CHESS KNIGHT ROTATED TWO HUNDRED TWENTY-FIVE DEGREESaBLACK~~~~~~~aNEUTRAL~~~~~~~",
   "aWHITE CHESS KING ROTATED TWO HUNDRED SEVENTY~cQUEEN~~~~~cROOK~~~~~cBISHOP~~~~~cKNIGHT~~~~~",
   "cPAWN~~~~~aBLACK CHESS KING~~~~~cQUEEN~~~~~cROOK~~~~~cBISHOP~~~~~cKNIGHT~~~~~cPAWN~~~~~",
   "aNEUTRAL CHESS KING~~~~~cQUEEN~~~~~cROOK~~~~~cBISHOP~~~~~cKNIGHT~~~~~cPAWN~~~~~",
   "aWHITE CHESS KNIGHT ROTATED THREE HUNDRED FIFTEEN~aBLACK~~~~~~~aNEUTRAL~~~~~~~",
   "aWHITE CHESS EQUIHOPPERaBLACK~~aNEUTRAL~~aWHITE CHESS EQUIHOPPER ROTATED NINETY DEGREES",
   "aBLACK~~~~~aNEUTRAL~~~~~aWHITE CHESS KNIGHT-QUEENcKNIGHT-ROOKcKNIGHT-BISHOP",
   "aBLACK CHESS KNIGHT-QUEENcKNIGHT-ROOKcKNIGHT-BISHOP@1FA60aXIANGQI RED GENERALcMANDARIN",
   "cELEPHANTcHORSEcCHARIOTcCANNONcSOLDIERbBLACK GENERALcMANDARINcELEPHANTcHORSEcCHARIOTcCANNON",
   "cSOLDIER@1FA70aBALLET SHOESaONE-PIECE SWIMSUITaBRIEFSaSHORTSaTHONG SANDALaLIGHT BLUE HEART",
   "aGREY~aPINK~aDROP OF BLOODaADHESIVE BANDAGEaSTETHOSCOPEaX-RAYaCRUTCH@1FA80aYO-YOaKITE",
   "aPARACHUTEaBOOMERANGaMAGIC WANDaPINATAaNESTING DOLLSaMARACASaFLUTE@1FA90aRINGED PLANETaCHAIR",
   "aRAZORaAXEaDIYA LAMPaBANJOaMILITARY HELMETaACCORDIONaLONG DRUMaCOINaCARPENTRY SAWaSCREWDRIVER",
   "aLADDERaHOOKaMIRRORaWINDOWaPLUNGERaSEWING NEEDLEaKNOTaBUCKETaMOUSE TRAPaTOOTHBRUSHaHEADSTONE",
   "aPLACARDaROCKaMIRROR BALLaIDENTIFICATION CARDaLOW BATTERYaHAMSAaFOLDING HAND FANaHAIR PICK",
   "aKHANDAaFLYaWORMaBEETLEaCOCKROACHaPOTTED PLANTaWOODaFEATHERaLOTUSaCORALaEMPTY NEST",
   "aNEST WITH EGGSaHYACINTHaJELLYFISHaWING@1FABFaGOOSEaANATOMICAL HEARTaLUNGSaPEOPLE HUGGING",
   "aPREGNANT MANbPERSONaPERSON WITH CROWN@1FACEaMOOSEaDONKEYaBLUEBERRIESaBELL PEPPERaOLIVE",
   "aFLATBREADaTAMALEaFONDUEaTEAPOTaPOURING LIQUIDaBEANSaJARaGINGER ROOTaPEA POD@1FAE0",
   "aMELTING FACEaSALUTING~aFACE WITH OPEN EYES AND HAND OVER MOUTHcPEEKING EYEcDIAGONAL MOUTH",
   "aDOTTED LINE FACEaBITING LIPaBUBBLESaSHAKING FACE@1FAF0",
   "aHAND WITH INDEX FINGER AND THUMB CROSSEDaRIGHTWARDS HANDaLEFTWARDS~aPALM DOWN~bUP~",
   "aINDEX POINTING AT THE VIEWERaHEART HANDSaLEFTWARDS PUSHING HANDaRIGHTWARDS~~@1FB00",
   "aBLOCK SEXTANT-1+1bSEXTANT-12bSEXTANT-3bSEXTANT-13bSEXTANT-23bSEXTANT-123bSEXTANT-4bSEXTANT-14",
   "bSEXTANT-24bSEXTANT-124bSEXTANT-34bSEXTANT-134bSEXTANT-234bSEXTANT-1234bSEXTANT-5bSEXTANT-15",
   "bSEXTANT-25bSEXTANT-125bSEXTANT-35bSEXTANT-235bSEXTANT-1235bSEXTANT-45bSEXTANT-145bSEXTANT-245",
   "bSEXTANT-1245bSEXTANT-345bSEXTANT-1345bSEXTANT-2345bSEXTANT-12345bSEXTANT-6bSEXTANT-16",
   "bSEXTANT-26bSEXTANT-126bSEXTANT-36bSEXTANT-136bSEXTANT-236bSEXTANT-1236bSEXTANT-46bSEXTANT-146",
   "bSEXTANT-1246bSEXTANT-346bSEXTANT-1346bSEXTANT-2346bSEXTANT-12346bSEXTANT-56bSEXTANT-156",
   "bSEXTANT-256bSEXTANT-1256bSEXTANT-356bSEXTANT-1356bSEXTANT-2356bSEXTANT-12356bSEXTANT-456",
   "bSEXTANT-1456bSEXTANT-2456bSEXTANT-12456bSEXTANT-3456bSEXTANT-13456bSEXTANT-23456",
   "aLOWER LEFT BLOCK DIAGONAL LOWER MIDDLE LEFT TO LOWER CENTREjRIGHT",
   "eUPPER MIDDLE LEFT TO LOWER CENTREjRIGHTfLEFT TO LOWER CENTRE",
   "bRIGHT BLOCK DIAGONAL UPPER MIDDLE LEFT TO UPPER~jRIGHTeLOWER MIDDLE LEFT TO UPPER CENTRE",
   "jRIGHTfLEFT TO UPPER CENTREfMIDDLE LEFT TO UPPER MIDDLE RIGHTfCENTRE TO LOWER~~fLEFT~~~~",
   "fCENTRE TO UPPER~~fLEFT~~~~fCENTRE TO UPPER~bLEFT BLOCK DIAGONAL UPPER CENTRE TO UPPER MIDDLE~",
   "fLEFT~~~~fCENTRE TO LOWER~~fLEFT~~~~fCENTRE TO LOWER~fMIDDLE LEFT TO LOWER MIDDLE~",
   "aUPPER RIGHT BLOCK DIAGONAL LOWER MIDDLE LEFT TO LOWER CENTREjRIGHT",
   "eUPPER MIDDLE LEFT TO LOWER CENTREjRIGHTfLEFT TO LOWER CENTRE",
   "bLEFT BLOCK DIAGONAL UPPER MIDDLE LEFT TO UPPER~jRIGHTeLOWER MIDDLE LEFT TO UPPER CENTREjRIGHT",
   "fLEFT TO UPPER CENTREfMIDDLE LEFT TO UPPER MIDDLE RIGHTfCENTRE TO LOWER~~fLEFT~~~~",
   "fCENTRE TO UPPER~~fLEFT~~~~fCENTRE TO UPPER~",
   "bRIGHT BLOCK DIAGONAL UPPER CENTRE TO UPPER MIDDLE~fLEFT~~~~fCENTRE TO LOWER~~fLEFT~~~~",
   "fCENTRE TO LOWER~fMIDDLE LEFT TO LOWER MIDDLE~",
   "bAND RIGHT AND LOWER TRIANGULAR THREE QUARTERS BLOCKaLEFT AND LOWER AND RIGHT~~~~",
   "aUPPER AND LEFT AND LOWER~~~~aLEFT AND UPPER AND RIGHT~~~~bTRIANGULAR ONE QUARTER~aUPPER~~~~",
   "aRIGHT~~~~aLOWER~~~~aVERTICAL ONE EIGHTH BLOCK-2+5aHORIZONTAL ONE EIGHTH BLOCK-2+5",
   "aLEFT AND LOWER ONE EIGHTH BLOCKcUPPER~~~aRIGHT~~~~~cLOWER~~~aUPPER~~~~~",
   "aHORIZONTAL ONE EIGHTH BLOCK-1358aUPPER ONE QUARTER BLOCKbTHREE EIGHTHS~bFIVE~~",
   "bTHREE QUARTERS~bSEVEN EIGHTHS~aRIGHT ONE QUARTER~bTHREE EIGHTHS~bFIVE~~bTHREE QUARTERS~",
   "bSEVEN EIGHTHS~aLEFT HALF MEDIUM SHADEaRIGHT~~~aUPPER~~~aLOWER~~~aINVERSE~~",
   "aUPPER HALF BLOCK AND LOWER HALF~~~cINVERSE MEDIUM SHADE AND LOWER HALF BLOCK@1FB94",
   "aLEFT HALF INVERSE MEDIUM SHADE AND RIGHT~~aCHECKER BOARD FILLaINVERSE~~~aHEAVY HORIZONTAL~",
   "aUPPER LEFT TO LOWER RIGHT~bRIGHT TO LOWER LEFT~bAND LOWER TRIANGULAR HALF BLOCK",
   "aLEFT AND RIGHT~~~aUPPER LEFT TRIANGULAR MEDIUM SHADEbRIGHT~~~aLOWER~~~~bLEFT~~~",
   "aBOX DRAWINGS LIGHT DIAGONAL UPPER CENTRE TO MIDDLE LEFTiRIGHTeMIDDLE LEFT TO LOWER CENTRE",
   "fRIGHT~~~eUPPER CENTRE TO MIDDLE LEFT~~~iRIGHT~~~eMIDDLE LEFT TO LOWER CENTRE TO MIDDLE RIGHT",
   "hUPPER~~~~eUPPER CENTRE TO MIDDLE LEFT AND MIDDLE RIGHT TO LOWER CENTRE",
   "iRIGHT AND MIDDLE LEFT~~~jTO LOWER CENTRE TO MIDDLE LEFTiLEFT TO LOWER CENTRE TO MIDDLE RIGHT",
   "eMIDDLE LEFT TO UPPER CENTRE TO MIDDLE RIGHT TO LOWER CENTRE",
   "fRIGHT TO UPPER CENTRE TO MIDDLE LEFT~~~eDIAMONDdHORIZONTAL WITH VERTICAL STROKE",
   "aARROWHEAD-SHAPED POINTERaINVERSE CHECK MARKaLEFT HALF RUNNING MANaRIGHT~~~",
   "aINVERSE DOWNWARDS ARROW WITH TIP LEFTWARDS",
   "aLEFTWARDS ARROW AND UPPER AND LOWER ONE EIGHTH BLOCKaRIGHTWARDS~~~~~~~~",
   "aDOWNWARDS ARROW AND RIGHT~~~aUPWARDS~~~~~~aLEFT HALF FOLDERaRIGHT~~aVOIDED GREEK CROSS",
   "aRIGHT OPEN SQUARED DOTaNEGATIVE DIAGONAL CROSScMIDDLE RIGHT TO LOWER CENTREcDIAMOND",
   "aWHITE HEAVY SALTIRE WITH ROUNDED CORNERSaLEFT THIRD WHITE RIGHT POINTING INDEXaMIDDLE~~~~~",
   "aRIGHT~~~~~aNEGATIVE SQUARED QUESTION MARKaSTICK FIGUREcWITH ARMS RAISEDcLEANING LEFTdRIGHT",
   "cWITH DRESSaWHITE UP-POINTING CHEVRON@1FBF0aSEGMENTED DIGIT ZEROcONEcTWOcTHREEcFOURcFIVEcSIX",
   "cSEVENcEIGHTcNINE@E0001aLANGUAGE TAG@E0020aTAG SPACEbEXCLAMATION MARKbQUOTATION~bNUMBER SIGN",
   "bDOLLAR~bPERCENT~bAMPERSANDbAPOSTROPHEbLEFT PARENTHESISbRIGHT~bASTERISKbPLUS SIGNbCOMMA",
   "bHYPHEN-MINUSbFULL STOPbSOLIDUSbDIGIT ZEROcONEcTWOcTHREEcFOURcFIVEcSIXcSEVENcEIGHTcNINEbCOLON",
   "bSEMICOLONbLESS-THAN SIGNbEQUALS~bGREATER-THAN~bQUESTION MARKbCOMMERCIAL AT",
   "bLATIN CAPITAL LETTER AeBeCeDeEeFeGeHeIeJeKeLeMeNeOePeQeReSeTeUeVeWeXeYeZbLEFT SQUARE BRACKET",
   "bREVERSE SOLIDUSbRIGHT SQUARE BRACKETbCIRCUMFLEX ACCENTbLOW LINEbGRAVE ACCENT",
   "bLATIN SMALL LETTER AeBeCeDeEeFeGeHeIeJeKeLeMeNeOePeQeReSeTeUeVeWeXeYeZbLEFT CURLY BRACKET",
   "bVERTICAL LINEbRIGHT CURLY BRACKETbTILDEaCANCEL TAG@E0100aVARIATION SELECTOR-17+239"]

end ClassSchema.Text.CharacterName
